/-!
# The tables of the npca110

The byte tables of `npca110.h` that the driver sends, three bytes a word, four
words a line. `adcWay1to2` and `adcWay2to1` each set the ADC Input Control
(`0xFF, 0xAD, 0x83`) and then latch it into the CODEC (`0xFF, 0xAD, 0x86`, with
`0`, `1`, `0`); `maxxAudioCmdMusic1Full` is the whole configuration of the chip.
-/

namespace Sounder.Npca110

/-- `AdcWay1to2`: the audio input from AUX1 to AUX2. -/
def adcWay1to2 : List UInt8 :=
  [0xFF, 0xAD, 0x83, 0x00, 0x00, 0x99, 0xFF, 0xAD, 0x86, 0x00, 0x00, 0x00,
   0xFF, 0xAD, 0x86, 0x00, 0x00, 0x01, 0xFF, 0xAD, 0x86, 0x00, 0x00, 0x00]

/-- `AdcWay2to1`: the audio input from AUX2 to AUX1. -/
def adcWay2to1 : List UInt8 :=
  [0xFF, 0xAD, 0x83, 0x00, 0x00, 0x88, 0xFF, 0xAD, 0x86, 0x00, 0x00, 0x00,
   0xFF, 0xAD, 0x86, 0x00, 0x00, 0x01, 0xFF, 0xAD, 0x86, 0x00, 0x00, 0x00]

/-- `MaxxAudio_Cmd_music1_FULL`: the configuration sent once, after the probe. -/
@[irreducible] def maxxAudioCmdMusic1Full : List UInt8 :=
  [ -- Setup Start, sample rate and mixer gains
   0x00, 0xA5, 0x00, 0x00, 0xC3, 0x00, 0x00, 0xA4, 0x11, 0x06, 0xF6, 0x95,
   0x00, 0x00, 0x00, 0x00, 0x00, 0x00, 0x08, 0x11, 0x24, 0x00, 0x00, 0x00,
   0x00, 0x00, 0x00, 0x00, 0x00, 0x00, 0x00, 0x00, 0x00, 0x7F, 0xFF, 0xFF,
   0x00, 0x00, 0x00, 0x7F, 0xFF, 0xFF, 0x00, 0x00, 0x00, 0x00, 0x00, 0x00,
   0x00, 0x00, 0x00, 0x65, 0xAC, 0x8B, 0x00, 0x00, 0x00, 0x7F, 0xFF, 0xFF,
   0x00, 0xC8, 0x00,
   -- SSI Control
   0x00, 0xA7, 0x3E, 0x00, 0xBF, 0xD5,
   -- PLL and clocks (verify 250usec delay between PLL commands)
   0xFF, 0xAB, 0xFB, 0x24, 0x10, 0x09, 0xFF, 0xAB, 0xFA, 0x08, 0x00, 0x09,
   0xFF, 0xAB, 0xFA, 0x00, 0x00, 0x09, 0xFF, 0xAB, 0xFB, 0xA4, 0x18, 0x29,
   -- CODEC: interface, power, ADC and DAC volumes, ADC input, latch
   0xFF, 0xAD, 0x84, 0x00, 0x00, 0x18, 0xFF, 0xAD, 0x85, 0x00, 0x1F, 0xFF,
   0xFF, 0xAD, 0x81, 0x00, 0x12, 0x12, 0xFF, 0xAD, 0x82, 0x00, 0x14, 0x14,
   0xFF, 0xAD, 0x83, 0x00, 0x00, 0x88, 0xFF, 0xAD, 0x80, 0x00, 0x54, 0x54,
   0xFF, 0xAD, 0x87, 0x00, 0x54, 0x54, 0xFF, 0xAD, 0x86, 0x00, 0x00, 0x00,
   0xFF, 0xAD, 0x86, 0x00, 0x00, 0x01, 0xFF, 0xAD, 0x86, 0x00, 0x00, 0x00,
   -- Sub EQ
   0x00, 0xF4, 0x00, 0x03, 0xA8, 0xE0, 0x00, 0x00, 0x01, 0x03, 0xA8, 0xE1,
   0x00, 0x00, 0x01, 0x03, 0xA8, 0xE2, 0x00, 0x00, 0x00, 0x03, 0xA8, 0xE3,
   0x40, 0x00, 0x00, 0x03, 0xA8, 0xE4, 0x00, 0x00, 0x00, 0x03, 0xA8, 0xE5,
   0x00, 0x00, 0x00, 0x03, 0xA8, 0xE6, 0x00, 0x00, 0x00, 0x01, 0xF4, 0x01,
   0x00, 0xF4, 0x00, 0x03, 0xA8, 0xE0, 0x00, 0x00, 0x01, 0x03, 0xA8, 0xE1,
   0x00, 0x00, 0x01, 0x03, 0xA8, 0xE7, 0x00, 0x00, 0x00, 0x03, 0xA8, 0xE8,
   0x40, 0x00, 0x00, 0x03, 0xA8, 0xE9, 0x00, 0x00, 0x00, 0x03, 0xA8, 0xEA,
   0x00, 0x00, 0x00, 0x03, 0xA8, 0xEB, 0x00, 0x00, 0x00, 0x01, 0xF4, 0x01,
   -- I/O configuration
   0xFF, 0xAB, 0xF2, 0xFF, 0xFF, 0xFF, 0xFF, 0xAB, 0xDB, 0x00, 0x00, 0x00,
   0xFF, 0xAB, 0xDC, 0x00, 0x00, 0x00, 0xFF, 0xAB, 0xF3, 0x00, 0x00, 0x51,
   0xFF, 0xAB, 0xDA, 0x00, 0x3F, 0x67,
   -- algorithm configuration
   0x00, 0xC2, 0x00, 0x00, 0xC9, 0x78, 0x00, 0xDF, 0x4B, 0x00, 0xDB, 0x86,
   0x00, 0xDB, 0x86, 0x00, 0xC7, 0x00, 0x00, 0xE0, 0x0A, 0x00, 0xD5, 0x58,
   0x00, 0xE3, 0x33, 0x00, 0xCF, 0x00, 0x00, 0xE1, 0x65, 0x00, 0xCB, 0x01,
   0x00, 0xE2, 0x2F, 0x00, 0xD9, 0x40, 0x00, 0xE5, 0x2F, 0x00, 0xE4, 0x70,
   0x00, 0xD7, 0x81, 0x01, 0xD0, 0xAF, 0x00, 0xC6, 0x01, 0x00, 0xDD, 0x01,
   0x00, 0xD4, 0x35, 0x00, 0xDA, 0x10, 0x00, 0xDC, 0x1F,
   -- PEQ
   0x00, 0xA1, 0x05, 0x00, 0x00, 0x00, 0x00, 0x00, 0x04, 0x00, 0x00, 0x0B,
   0x00, 0x00, 0x16, 0x00, 0x00, 0x40, 0x00, 0xD8, 0x00, 0x00, 0xA1, 0x05,
   0x00, 0x00, 0x01, 0x00, 0x00, 0x00, 0x00, 0x00, 0x27, 0x00, 0x00, 0x40,
   0x00, 0x00, 0x38, 0x00, 0xD8, 0x00, 0x00, 0xA1, 0x05, 0x00, 0x00, 0x02,
   0x00, 0x00, 0x00, 0x00, 0x00, 0x30, 0x00, 0x00, 0x49, 0x00, 0x00, 0x39,
   0x00, 0xD8, 0x00, 0x00, 0xA1, 0x05, 0x00, 0x00, 0x03, 0x00, 0x00, 0x00,
   0x00, 0x00, 0x3E, 0x00, 0x00, 0x37, 0x00, 0x00, 0x37, 0x00, 0xD8, 0x00,
   0x00, 0xA1, 0x05, 0x00, 0x00, 0x04, 0x00, 0x00, 0x00, 0x00, 0x00, 0x49,
   0x00, 0x00, 0x44, 0x00, 0x00, 0x36, 0x00, 0xD8, 0x00, 0x00, 0xA1, 0x05,
   0x00, 0x00, 0x05, 0x00, 0x00, 0x00, 0x00, 0x00, 0x5B, 0x00, 0x00, 0x44,
   0x00, 0x00, 0x39, 0x00, 0xD8, 0x00, 0x00, 0xA1, 0x05, 0x00, 0x00, 0x06,
   0x00, 0x00, 0x00, 0x00, 0x00, 0x61, 0x00, 0x00, 0x58, 0x00, 0x00, 0x38,
   0x00, 0xD8, 0x00, 0x00, 0xA1, 0x05, 0x00, 0x00, 0x07, 0x00, 0x00, 0x00,
   0x00, 0x00, 0x75, 0x00, 0x00, 0x31, 0x00, 0x00, 0x39, 0x00, 0xD8, 0x00,
   0x00, 0xA1, 0x05, 0x00, 0x00, 0x08, 0x00, 0x00, 0x00, 0x00, 0x00, 0x1B,
   0x00, 0x00, 0x11, 0x00, 0x00, 0x40, 0x00, 0xD8, 0x00, 0x00, 0xA1, 0x05,
   0x00, 0x00, 0x09, 0x00, 0x00, 0x02, 0x00, 0x00, 0x6A, 0x00, 0x00, 0x16,
   0x00, 0x00, 0x49, 0x00, 0xD8, 0x00,
   -- MaxxBass, MaxxTreble, Maxx3D, MaxxDialog
   0x00, 0xCF, 0x01, 0x00, 0xD1, 0x00, 0x00, 0xD1, 0x09, 0x00, 0xD1, 0x12,
   0x00, 0xD1, 0x1B, 0x00, 0xD1, 0x24, 0x00, 0xD1, 0x2D, 0x00, 0xD1, 0x36,
   0x00, 0xD1, 0x3F, 0x00, 0xD1, 0x48, 0x00, 0xD1, 0x4C, 0x00, 0xD1, 0x18,
   0x00, 0xCF, 0x00, 0x00, 0xD2, 0x30, 0x00, 0xCF, 0x00, 0x00, 0xD3, 0x00,
   0x00, 0xD6, 0x0C, 0x00, 0xCF, 0x00, 0x00, 0xE8, 0x49, 0x00, 0xE9, 0x39,
   0x00, 0xCF, 0x00, 0x00, 0xCC, 0x01,
   -- HWP
   0xFF, 0xAB, 0xF4, 0x00, 0x00, 0x00, 0xFF, 0xAB, 0xF5, 0x30, 0x07, 0x0C,
   0xFF, 0xAB, 0xF6, 0x61, 0x70, 0x00, 0xFF, 0xAB, 0xF7, 0x00, 0x01, 0xFC,
   0xFF, 0xAB, 0xF4, 0x00, 0x00, 0x01, 0xFF, 0xAB, 0xF5, 0x30, 0x07, 0x0E,
   0xFF, 0xAB, 0xF6, 0x54, 0xF4, 0x00, 0xFF, 0xAB, 0xF7, 0x00, 0x04, 0xE2,
   0xFF, 0xAB, 0xF4, 0x00, 0x00, 0x02, 0xFF, 0xAB, 0xF5, 0x10, 0x07, 0x13,
   0xFF, 0xAB, 0xF6, 0x00, 0x0C, 0x40, 0xFF, 0xAB, 0xF4, 0x00, 0x00, 0x03,
   0xFF, 0xAB, 0xF5, 0x10, 0x10, 0x95, 0xFF, 0xAB, 0xF6, 0x4F, 0xDC, 0xBA,
   0xFF, 0xAB, 0xF4, 0x00, 0x00, 0x04, 0xFF, 0xAB, 0xF5, 0x10, 0x13, 0x9E,
   0xFF, 0xAB, 0xF6, 0x00, 0x00, 0x00, 0xFF, 0xAB, 0xF4, 0x00, 0x00, 0x05,
   0xFF, 0xAB, 0xF5, 0x30, 0x0F, 0x6C, 0xFF, 0xAB, 0xF6, 0x56, 0xF4, 0x00,
   0xFF, 0xAB, 0xF7, 0x00, 0x00, 0xA9, 0xFF, 0xAB, 0xF4, 0x00, 0x00, 0x06,
   0xFF, 0xAB, 0xF5, 0x30, 0x0F, 0x66, 0xFF, 0xAB, 0xF6, 0x0A, 0xF0, 0x80,
   0xFF, 0xAB, 0xF7, 0x00, 0x0C, 0xFC, 0xFF, 0xAB, 0xF4, 0x00, 0x00, 0x07,
   0xFF, 0xAB, 0xF5, 0x20, 0x19, 0xE4, 0xFF, 0xAB, 0xF6, 0x63, 0xF4, 0x00,
   0xFF, 0xAB, 0xF7, 0x00, 0x02, 0xE0,
   -- Set Patch Version
   0x06, 0xAA, 0x06,
   -- Load Patch (extend data 1250 x 3)
   0x04, 0xA2, 0xE2, 0x61, 0xF4, 0x00, 0x00, 0x0D, 0x42, 0x61, 0x70, 0x00,
   0x00, 0x02, 0x47, 0x3C, 0x0A, 0x00, 0x38, 0x0A, 0x00, 0x64, 0xF4, 0x00,
   0x00, 0x01, 0x34, 0x60, 0xF4, 0x00, 0x00, 0x01, 0xDA, 0x05, 0xF4, 0x20,
   0xFF, 0xFF, 0xFF, 0x04, 0x64, 0xA0, 0x20, 0x4C, 0x00, 0x20, 0x48, 0x00,
   0x44, 0xB8, 0x00, 0x0C, 0xC4, 0xA0, 0x00, 0x00, 0x16, 0x57, 0xF4, 0x00,
   0x7F, 0xF7, 0x05, 0x5F, 0x5C, 0x00, 0x5F, 0x58, 0x00, 0x57, 0xF4, 0x00,
   0x7F, 0xFF, 0x38, 0x5F, 0x5C, 0x00, 0x5F, 0x58, 0x00, 0x20, 0x5C, 0x00,
   0x20, 0x58, 0x00, 0x57, 0xF4, 0x00, 0x7F, 0xFF, 0xBC, 0x5F, 0x5C, 0x00,
   0x5F, 0x58, 0x00, 0x57, 0xF4, 0x00, 0x7F, 0xC7, 0x29, 0x5F, 0x5C, 0x00,
   0x5F, 0x58, 0x00, 0x0A, 0xF0, 0x80, 0x00, 0x0C, 0x78, 0x57, 0xF4, 0x00,
   0x7F, 0xF6, 0x3A, 0x5F, 0x5C, 0x00, 0x5F, 0x58, 0x00, 0x57, 0xF4, 0x00,
   0x7F, 0xFF, 0x27, 0x5F, 0x5C, 0x00, 0x5F, 0x58, 0x00, 0x20, 0x5C, 0x00,
   0x20, 0x58, 0x00, 0x57, 0xF4, 0x00, 0x7F, 0xFF, 0xB6, 0x5F, 0x5C, 0x00,
   0x5F, 0x58, 0x00, 0x57, 0xF4, 0x00, 0x7F, 0xC2, 0x23, 0x5F, 0x5C, 0x00,
   0x5F, 0x58, 0x00, 0x54, 0xF0, 0x00, 0xFF, 0xFF, 0xF1, 0x0C, 0x1E, 0xE2,
   0x01, 0x40, 0xC6, 0x00, 0x00, 0x07, 0x01, 0x40, 0xC5, 0x00, 0x00, 0x01,
   0x0A, 0xF0, 0xA2, 0x00, 0x0C, 0x89, 0x61, 0xF4, 0x00, 0x00, 0xCD, 0xAC,
   0x61, 0x70, 0x00, 0x00, 0x02, 0x14, 0x61, 0xF4, 0x00, 0x00, 0xC8, 0x32,
   0x61, 0x70, 0x00, 0x00, 0x01, 0xFF, 0x60, 0xF4, 0x00, 0x00, 0x0D, 0x4A,
   0x60, 0x70, 0x00, 0x00, 0x01, 0xF8, 0x0B, 0xF0, 0x80, 0x00, 0x0D, 0x4A,
   0x61, 0xF4, 0x00, 0x00, 0x0D, 0x03, 0x61, 0x70, 0x00, 0x00, 0x02, 0x42,
   0x61, 0xF4, 0x00, 0xFF, 0xFF, 0xF4, 0x44, 0xF4, 0x00, 0x00, 0x00, 0x07,
   0x44, 0x59, 0x00, 0x44, 0xB8, 0x00, 0x0C, 0xC4, 0xA0, 0x00, 0x00, 0x06,
   0x44, 0xF4, 0x00, 0x20, 0x19, 0xE4, 0x0A, 0xF0, 0x80, 0x00, 0x0C, 0xA1,
   0x44, 0xF4, 0x00, 0x30, 0x19, 0xE4, 0x44, 0x61, 0x00, 0x61, 0xF4, 0x00,
   0x00, 0x0D, 0x6F, 0x61, 0x70, 0x00, 0x00, 0x02, 0x56, 0x61, 0xF4, 0x00,
   0x00, 0x0D, 0xA4, 0x61, 0x70, 0x00, 0x00, 0x02, 0x45, 0x65, 0xF4, 0x13,
   0x00, 0x03, 0x80, 0x44, 0xF4, 0x00, 0x00, 0x03, 0x81, 0x44, 0x5D, 0x00,
   0x06, 0x40, 0xA0, 0x56, 0x5D, 0x00, 0x0B, 0xF0, 0x80, 0x00, 0x0D, 0xC6,
   0x61, 0xF4, 0x00, 0x00, 0x0D, 0xCE, 0x61, 0x70, 0x00, 0x00, 0x02, 0x15,
   0x61, 0xF4, 0x00, 0x00, 0x0F, 0x43, 0x61, 0x70, 0x00, 0x00, 0x01, 0xFC,
   0x60, 0xF4, 0x00, 0x00, 0x00, 0x0E, 0x45, 0xF4, 0x00, 0x0B, 0xF0, 0x80,
   0x44, 0xF4, 0x00, 0x00, 0x0E, 0xA4, 0x07, 0x58, 0x85, 0x07, 0x58, 0x84,
   0x60, 0xF4, 0x00, 0x00, 0x00, 0x1A, 0x07, 0x58, 0x85, 0x07, 0x58, 0x84,
   0x0B, 0xF0, 0x80, 0x00, 0x0E, 0x73, 0x61, 0xF4, 0x00, 0x00, 0x0E, 0xDE,
   0x64, 0xF4, 0x00, 0x00, 0x03, 0x95, 0x60, 0xF4, 0x00, 0x00, 0x03, 0x71,
   0x0B, 0xE1, 0x80, 0x64, 0xF4, 0x00, 0x00, 0x03, 0x98, 0x60, 0xF4, 0x00,
   0x00, 0x03, 0x75, 0x0B, 0xE1, 0x80, 0x64, 0xF4, 0x00, 0x00, 0x03, 0x99,
   0x60, 0xF4, 0x00, 0x00, 0x03, 0x76, 0x46, 0xF4, 0x00, 0x00, 0x00, 0x0E,
   0x4E, 0x64, 0x00, 0x46, 0x60, 0x00, 0x60, 0xF4, 0x00, 0x00, 0x03, 0x79,
   0x44, 0xF4, 0x00, 0x00, 0x00, 0x0A, 0x0B, 0xF0, 0x80, 0x00, 0x0E, 0xE7,
   0x46, 0xF4, 0x00, 0x7F, 0xFF, 0xFF, 0x4E, 0x70, 0x00, 0x00, 0x03, 0x9B,
   0x64, 0xF4, 0x00, 0x00, 0x03, 0x9D, 0x60, 0xF4, 0x00, 0x00, 0x03, 0x7C,
   0x46, 0xF4, 0x00, 0x00, 0x00, 0x17, 0x4E, 0x64, 0x00, 0x46, 0x60, 0x00,
   0x0A, 0xC4, 0x40, 0x0B, 0xF0, 0x80, 0x00, 0x10, 0xEF, 0x61, 0xF4, 0x00,
   0x00, 0x11, 0x0F, 0x61, 0x70, 0x00, 0x00, 0x02, 0xD9, 0x0B, 0xF0, 0x80,
   0x00, 0x0D, 0x08, 0x54, 0xF0, 0x00, 0x00, 0x00, 0x46, 0x0A, 0xF0, 0x80,
   0x00, 0x11, 0x1C, 0x61, 0xF0, 0x00, 0x00, 0x02, 0x20, 0x21, 0xBA, 0x00,
   0x0B, 0xE1, 0x80, 0x0B, 0xF0, 0x80, 0x00, 0x0D, 0x08, 0x00, 0x00, 0x0C,
   0x0B, 0xF0, 0x80, 0x00, 0xD1, 0x39, 0x0B, 0xF0, 0x80, 0x00, 0x0D, 0x08,
   0x00, 0x00, 0x0C, 0x05, 0xF4, 0x23, 0xFF, 0xFF, 0xFF, 0x20, 0x00, 0x1B,
   0x57, 0xF0, 0x13, 0x00, 0x02, 0xB7, 0x56, 0xBD, 0x00, 0x01, 0x41, 0x85,
   0x0A, 0xF0, 0xA2, 0x00, 0x0D, 0x13, 0x57, 0xF0, 0x00, 0x00, 0x02, 0xB9,
   0x46, 0xF4, 0x00, 0x00, 0x00, 0x01, 0x20, 0x00, 0x58, 0x21, 0xE5, 0x3A,
   0x20, 0x00, 0x68, 0x47, 0xF4, 0x00, 0x00, 0x16, 0x00, 0x46, 0xF0, 0x78,
   0x00, 0x00, 0x48, 0x20, 0x00, 0x58, 0x21, 0xF3, 0x00, 0x6C, 0xF0, 0x00,
   0x00, 0x02, 0x4E, 0x74, 0xF4, 0x00, 0x00, 0x00, 0x03, 0x20, 0x4C, 0x00,
   0x4E, 0xDB, 0x13, 0x20, 0xCE, 0x00, 0x4E, 0x5C, 0x00, 0x4E, 0xDB, 0x00,
   0x4E, 0x5C, 0x00, 0x4E, 0xDB, 0x00, 0x4E, 0x64, 0x00, 0x44, 0xF0, 0x00,
   0x00, 0x02, 0xA6, 0x63, 0xF4, 0x00, 0x00, 0x1A, 0xE8, 0x46, 0xF4, 0x00,
   0x00, 0x00, 0x18, 0x20, 0x54, 0xD8, 0x20, 0x54, 0x2A, 0x21, 0x3B, 0x00,
   0x20, 0x4B, 0x00, 0x73, 0xF4, 0x00, 0x00, 0x00, 0x12, 0x20, 0x4B, 0x00,
   0x46, 0xDB, 0x1B, 0x20, 0xCF, 0x00, 0x20, 0x00, 0x0D, 0x0D, 0x10, 0x49,
   0x00, 0x00, 0x07, 0x4E, 0x5C, 0x00, 0x46, 0xDB, 0x00, 0x4E, 0x5C, 0x00,
   0x46, 0xDB, 0x00, 0x4E, 0x64, 0x00, 0x00, 0x00, 0x0C, 0x0B, 0xF0, 0x80,
   0x00, 0xD3, 0x68, 0x46, 0xF4, 0x00, 0x4D, 0xF8, 0xF0, 0x74, 0xF4, 0x00,
   0x00, 0x00, 0x1E, 0x4E, 0x6C, 0x00, 0x00, 0x00, 0x0C, 0x55, 0xBE, 0x00,
   0x01, 0x40, 0xCE, 0xFF, 0xFF, 0x3F, 0x30, 0xFF, 0x00, 0x04, 0xCD, 0xCD,
   0x20, 0x00, 0x1B, 0x22, 0x09, 0x00, 0x00, 0x00, 0x0B, 0x0D, 0x10, 0x4A,
   0x00, 0x00, 0x0A, 0x0A, 0x9D, 0xA1, 0x00, 0x0D, 0x51, 0x22, 0x09, 0x00,
   0x00, 0x00, 0x0B, 0x0D, 0x10, 0x4A, 0x00, 0x00, 0x04, 0x0A, 0x9D, 0x81,
   0x00, 0x0D, 0x57, 0x08, 0x45, 0x1A, 0x56, 0xF4, 0x00, 0x00, 0x03, 0xFF,
   0x20, 0x00, 0x62, 0x08, 0xCC, 0x1A, 0x20, 0xA4, 0x00, 0x07, 0xF0, 0x2D,
   0x00, 0x00, 0x3E, 0x57, 0xF0, 0x00, 0x00, 0x02, 0xAC, 0x45, 0xF4, 0x00,
   0x00, 0x00, 0x02, 0x45, 0xF4, 0x6A, 0xFF, 0x0F, 0xFF, 0x20, 0x00, 0x6E,
   0x55, 0x70, 0x00, 0x00, 0x02, 0xAC, 0x08, 0xC4, 0x1A, 0x00, 0x00, 0x0C,
   0x57, 0xF0, 0x00, 0x00, 0x01, 0x90, 0x56, 0xF0, 0x2A, 0x00, 0x01, 0x8E,
   0x20, 0x00, 0x22, 0x70, 0xF4, 0x10, 0x00, 0x00, 0x02, 0x0B, 0xF0, 0x80,
   0x00, 0xDA, 0xF0, 0x70, 0xF4, 0x00, 0x00, 0x00, 0x00, 0xF3, 0x98, 0x26,
   0x14, 0xDC, 0x47, 0x02, 0x90, 0x58, 0x21, 0xE6, 0x1B, 0x51, 0xD0, 0xD2,
   0x20, 0x00, 0xE6, 0x20, 0x00, 0x10, 0xF9, 0x18, 0x09, 0x50, 0x58, 0x00,
   0x20, 0xEE, 0x7D, 0x02, 0x90, 0x78, 0x21, 0xE6, 0x00, 0x00, 0xFE, 0xB9,
   0x06, 0x18, 0xA0, 0x01, 0x80, 0x50, 0x21, 0x05, 0x00, 0x21, 0x0E, 0x00,
   0x02, 0x0C, 0xB6, 0x21, 0xC5, 0x00, 0x20, 0x00, 0xE0, 0x20, 0x00, 0x32,
   0xF7, 0x98, 0x00, 0x4E, 0xDC, 0x67, 0x02, 0x90, 0x58, 0x12, 0x90, 0x00,
   0x01, 0x27, 0xA5, 0x21, 0x04, 0x00, 0x01, 0x26, 0xB5, 0x01, 0x24, 0xAE,
   0x21, 0xC5, 0x18, 0x20, 0x00, 0xEE, 0x55, 0x58, 0x00, 0x51, 0x58, 0x00,
   0x20, 0x5C, 0x00, 0x4C, 0xDC, 0x00, 0x47, 0xF4, 0x00, 0x7F, 0xFF, 0xFF,
   0x0B, 0xC4, 0x60, 0x02, 0x80, 0x78, 0x57, 0x70, 0x00, 0x00, 0x01, 0xB3,
   0x00, 0x00, 0x0C, 0x0A, 0xC4, 0x26, 0x00, 0xD2, 0x9B, 0x61, 0xF0, 0x00,
   0x00, 0x02, 0x56, 0x0B, 0xE1, 0x80, 0x57, 0xF0, 0x00, 0x00, 0x01, 0x96,
   0x63, 0xF0, 0x00, 0x00, 0x03, 0x80, 0x44, 0xE3, 0x00, 0x57, 0x5B, 0x00,
   0x44, 0x70, 0x00, 0x00, 0x01, 0x96, 0x22, 0x6E, 0x00, 0x44, 0xF4, 0x00,
   0x00, 0x03, 0x81, 0x01, 0x40, 0xC5, 0x00, 0x03, 0xC1, 0x02, 0x10, 0x40,
   0x56, 0x70, 0x00, 0x00, 0x03, 0x80, 0x44, 0xF0, 0x00, 0x00, 0x01, 0x90,
   0x1F, 0xB0, 0x41, 0x00, 0x01, 0x8E, 0x20, 0x00, 0x07, 0x02, 0x90, 0x00,
   0x20, 0x00, 0x79, 0x20, 0x00, 0x07, 0x02, 0x90, 0x00, 0x20, 0x8F, 0x00,
   0x20, 0x00, 0x79, 0x0A, 0xF0, 0x80, 0x00, 0xD2, 0x17, 0x20, 0x00, 0x13,
   0x60, 0xF4, 0x00, 0x00, 0x03, 0x68, 0x56, 0x60, 0x00, 0x06, 0x08, 0x80,
   0x00, 0x0D, 0xCC, 0x56, 0x58, 0x00, 0x00, 0x00, 0x0C, 0x56, 0xF0, 0x00,
   0x00, 0x01, 0xA7, 0x57, 0xF0, 0x22, 0x00, 0x01, 0xA8, 0x56, 0x70, 0x2A,
   0x00, 0x01, 0x8E, 0x57, 0x70, 0x00, 0x00, 0x01, 0x90, 0x6C, 0xF0, 0x00,
   0x00, 0x02, 0x4D, 0x3C, 0x00, 0x00, 0x61, 0xF0, 0x00, 0x00, 0x02, 0x1A,
   0x20, 0x4C, 0x00, 0x30, 0x4F, 0x00, 0x44, 0xF0, 0x00, 0x00, 0x00, 0x46,
   0x0B, 0xE1, 0x80, 0x6C, 0xF0, 0x00, 0x00, 0x02, 0x4D, 0x3C, 0x03, 0x00,
   0x61, 0xF0, 0x00, 0x00, 0x02, 0x2F, 0x20, 0x4C, 0x00, 0x30, 0x5D, 0x00,
   0x44, 0xF0, 0x00, 0x00, 0x00, 0x46, 0x0B, 0xE1, 0x80, 0x64, 0xF4, 0x00,
   0x00, 0x02, 0xC3, 0x61, 0xF0, 0x00, 0x00, 0x02, 0x3E, 0x30, 0xC9, 0x00,
   0x44, 0xF0, 0x00, 0x00, 0x00, 0x46, 0x0B, 0xE1, 0x80, 0x64, 0xF4, 0x00,
   0x00, 0x02, 0xD9, 0x61, 0xF0, 0x00, 0x00, 0x02, 0x88, 0x44, 0xF0, 0x00,
   0x00, 0x00, 0x46, 0x0B, 0xE1, 0x80, 0x6C, 0xF0, 0x00, 0x00, 0x02, 0x4D,
   0x3C, 0x10, 0x00, 0x61, 0xF0, 0x00, 0x00, 0x02, 0x32, 0x20, 0x4C, 0x00,
   0x30, 0x9B, 0x00, 0x44, 0xF0, 0x00, 0x00, 0x00, 0x46, 0x0B, 0xE1, 0x80,
   0x44, 0xF0, 0x00, 0x00, 0x01, 0x9E, 0x44, 0x70, 0x00, 0x00, 0x01, 0x97,
   0x44, 0xF0, 0x00, 0x00, 0x01, 0xA0, 0x44, 0x70, 0x00, 0x00, 0x01, 0x9A,
   0x6C, 0xF0, 0x00, 0x00, 0x02, 0x4D, 0x3C, 0x13, 0x00, 0x61, 0xF0, 0x00,
   0x00, 0x02, 0x25, 0x20, 0x4C, 0x00, 0x30, 0xA9, 0x00, 0x44, 0xF0, 0x00,
   0x00, 0x00, 0x46, 0x0B, 0xE1, 0x80, 0x56, 0xF0, 0x00, 0x00, 0x01, 0x9A,
   0x44, 0xF0, 0x00, 0x00, 0x01, 0x97, 0x57, 0xF0, 0x40, 0x00, 0x01, 0x9D,
   0x44, 0xF0, 0x22, 0x00, 0x01, 0x9F, 0x45, 0xF0, 0x48, 0x00, 0x01, 0x92,
   0x45, 0x70, 0x2A, 0x00, 0x01, 0x8E, 0x45, 0xF0, 0x10, 0x00, 0x01, 0x94,
   0x45, 0x70, 0x22, 0x00, 0x01, 0x90, 0x20, 0x00, 0x22, 0x56, 0x70, 0x00,
   0x00, 0x01, 0x96, 0x6C, 0xF0, 0x00, 0x00, 0x02, 0x4D, 0x3C, 0x29, 0x00,
   0x61, 0xF0, 0x00, 0x00, 0x02, 0x37, 0x20, 0x4C, 0x00, 0x30, 0xD7, 0x00,
   0x44, 0xF0, 0x00, 0x00, 0x00, 0x46, 0x0B, 0xE1, 0x80, 0x56, 0xF0, 0x00,
   0x00, 0x01, 0x8E, 0x57, 0xF0, 0x22, 0x00, 0x01, 0x90, 0x20, 0x00, 0x22,
   0x56, 0x70, 0x2A, 0x00, 0x01, 0x8E, 0x20, 0x00, 0x2A, 0x57, 0x70, 0x00,
   0x00, 0x01, 0x90, 0x6C, 0xF0, 0x00, 0x00, 0x02, 0x4D, 0x74, 0xF4, 0x00,
   0x00, 0x00, 0x5F, 0x61, 0xF0, 0x00, 0x00, 0x02, 0x7A, 0x20, 0x4C, 0x00,
   0x60, 0xF4, 0x00, 0x00, 0x01, 0x4E, 0x0B, 0xE1, 0x80, 0x30, 0xFA, 0x00,
   0x61, 0xF0, 0x00, 0x00, 0x02, 0x63, 0x64, 0xF4, 0x00, 0x00, 0x02, 0x50,
   0x0B, 0xE1, 0x80, 0x60, 0xF4, 0x00, 0x00, 0x03, 0x68, 0x44, 0xD8, 0x00,
   0x0A, 0xC4, 0x00, 0x00, 0x0E, 0x5C, 0x64, 0xF4, 0x00, 0x00, 0x03, 0xE0,
   0x7D, 0xDC, 0x00, 0x79, 0xDC, 0x00, 0x38, 0x02, 0x00, 0x57, 0xF0, 0x00,
   0x00, 0x01, 0x96, 0x0B, 0xF0, 0x80, 0x00, 0xD3, 0xA1, 0x57, 0x70, 0x00,
   0x00, 0x01, 0x96, 0x6C, 0xF0, 0x00, 0x00, 0x02, 0x4D, 0x3C, 0x33, 0x00,
   0x61, 0xF0, 0x00, 0x00, 0x02, 0x45, 0x30, 0xE1, 0x00, 0x20, 0x4C, 0x00,
   0x44, 0xF0, 0x00, 0x00, 0x00, 0x46, 0x0B, 0xE1, 0x80, 0x44, 0xF0, 0x00,
   0x00, 0x01, 0x92, 0x44, 0x70, 0x00, 0x00, 0x01, 0xAB, 0x44, 0xF0, 0x00,
   0x00, 0x01, 0x94, 0x44, 0x70, 0x00, 0x00, 0x01, 0xAC, 0x44, 0xF0, 0x00,
   0x00, 0x01, 0x96, 0x44, 0x70, 0x00, 0x00, 0x01, 0xAD, 0x00, 0x00, 0x0C,
   0x44, 0xF0, 0x00, 0x00, 0x02, 0xB3, 0x44, 0x70, 0x00, 0x00, 0x03, 0xFA,
   0x44, 0xF4, 0x00, 0x00, 0x00, 0x00, 0x44, 0x70, 0x00, 0x00, 0x03, 0xFB,
   0x44, 0xF4, 0x00, 0x00, 0x01, 0xD6, 0x44, 0x70, 0x00, 0x00, 0x03, 0xFC,
   0x44, 0xF4, 0x00, 0x00, 0x00, 0x01, 0x44, 0x70, 0x00, 0x00, 0x03, 0xFD,
   0x00, 0x00, 0x0C, 0x44, 0xF0, 0x00, 0x00, 0x02, 0xB3, 0x0A, 0xC5, 0x00,
   0x00, 0x0E, 0xA1, 0x44, 0xF0, 0x00, 0x00, 0x00, 0x46, 0x0A, 0xC4, 0x26,
   0x00, 0x0E, 0xA1, 0x44, 0xF0, 0x00, 0x00, 0x03, 0xFD, 0x01, 0x41, 0xC8,
   0x00, 0x00, 0x4E, 0x20, 0x00, 0x2A, 0x21, 0x26, 0x00, 0x44, 0xF0, 0x00,
   0x00, 0x02, 0xB2, 0x20, 0x00, 0xD8, 0x44, 0xF0, 0x00, 0x00, 0x03, 0xFC,
   0x20, 0x00, 0xDE, 0x2E, 0x00, 0x00, 0x20, 0x00, 0x1D, 0x0C, 0x1C, 0x95,
   0x50, 0xF0, 0x00, 0x00, 0x02, 0xB3, 0x20, 0x00, 0x14, 0x2F, 0x00, 0x00,
   0x20, 0x00, 0x1D, 0x21, 0x24, 0x00, 0x44, 0x70, 0x00, 0x00, 0x03, 0xFA,
   0x00, 0x00, 0x0C, 0x0B, 0xF0, 0x80, 0x00, 0xC2, 0x71, 0x0A, 0x15, 0x20,
   0x60, 0xF4, 0x00, 0x00, 0x03, 0x71, 0x64, 0xF4, 0x00, 0x00, 0x03, 0x95,
   0x0B, 0xF0, 0x80, 0x00, 0x0F, 0x10, 0x60, 0xF4, 0x00, 0x00, 0x03, 0x75,
   0x64, 0xF4, 0x00, 0x00, 0x03, 0x98, 0x0B, 0xF0, 0x80, 0x00, 0x0F, 0x10,
   0x60, 0xF4, 0x00, 0x00, 0x03, 0x7B, 0x64, 0xF4, 0x00, 0x00, 0x03, 0x9C,
   0x0B, 0xF0, 0x80, 0x00, 0x0F, 0x10, 0x61, 0xF0, 0x13, 0x00, 0x01, 0xEA,
   0x56, 0x70, 0x00, 0x00, 0x01, 0x96, 0x0B, 0xF0, 0x80, 0x00, 0xC8, 0x6B,
   0x0B, 0xE1, 0x80, 0x4E, 0xF0, 0x00, 0x00, 0x03, 0x9B, 0x44, 0xF0, 0x00,
   0x00, 0x01, 0xAB, 0x45, 0xF0, 0xD1, 0x00, 0x01, 0xAC, 0x56, 0x70, 0xE1,
   0x00, 0x01, 0xAB, 0x56, 0x70, 0x00, 0x00, 0x01, 0xAC, 0x44, 0xF0, 0x00,
   0x00, 0x01, 0xAD, 0x20, 0x00, 0xD1, 0x56, 0x70, 0x00, 0x00, 0x01, 0xAD,
   0x44, 0xF0, 0x00, 0x00, 0x01, 0xA5, 0x44, 0x70, 0x00, 0x00, 0x01, 0xA9,
   0x44, 0xF0, 0x00, 0x00, 0x01, 0xA6, 0x44, 0x70, 0x00, 0x00, 0x01, 0xAA,
   0x0B, 0x14, 0xAA, 0x00, 0x10, 0xFE, 0x0B, 0xF0, 0x80, 0x00, 0xC8, 0xAD,
   0x0B, 0xF0, 0x80, 0x00, 0xC2, 0xAE, 0x00, 0x00, 0x04, 0x24, 0x00, 0x00,
   0x44, 0x58, 0x00, 0x44, 0x58, 0x00, 0x44, 0x58, 0x00, 0x44, 0x58, 0x00,
   0x4C, 0x5C, 0x00, 0x4C, 0x5C, 0x00, 0x4C, 0x5C, 0x00, 0x00, 0x00, 0x0C,
   0x57, 0xF4, 0x00, 0x00, 0x00, 0x01, 0x20, 0x8E, 0x00, 0x20, 0x00, 0x05,
   0x02, 0x90, 0x00, 0x57, 0xF4, 0x00, 0x00, 0x03, 0xE8, 0x20, 0x00, 0x05,
   0x02, 0x70, 0x00, 0x0A, 0x38, 0xA1, 0x00, 0x0E, 0xFC, 0x0A, 0x38, 0xA0,
   0x00, 0x0E, 0xF8, 0x44, 0xF4, 0x00, 0x00, 0x00, 0x30, 0x0A, 0xF0, 0x80,
   0x00, 0x0F, 0x00, 0x44, 0xF4, 0x00, 0x00, 0x00, 0x2C, 0x0A, 0xF0, 0x80,
   0x00, 0x0F, 0x00, 0x44, 0xF4, 0x00, 0x00, 0x00, 0x20, 0x0A, 0xF0, 0x80,
   0x00, 0x0F, 0x00, 0x21, 0xC5, 0x00, 0x20, 0x00, 0xA0, 0x20, 0x00, 0x22,
   0x21, 0x04, 0x00, 0x44, 0x58, 0x00, 0x20, 0x00, 0x13, 0x50, 0xF4, 0x00,
   0x40, 0x00, 0x00, 0x20, 0x00, 0x26, 0x00, 0xFE, 0xB9, 0x06, 0x18, 0xA0,
   0x01, 0x80, 0x40, 0x20, 0x00, 0x32, 0x20, 0x00, 0x32, 0x50, 0x60, 0x00,
   0x00, 0x00, 0x0C, 0x61, 0xF4, 0x00, 0x00, 0x03, 0x79, 0x4C, 0xDC, 0x00,
   0x4E, 0xDC, 0x13, 0x50, 0xD8, 0x00, 0x0C, 0xC4, 0x80, 0x00, 0x00, 0x1D,
   0x65, 0xF4, 0x00, 0x00, 0x03, 0x84, 0x75, 0xD8, 0x00, 0x0C, 0xC4, 0x81,
   0x00, 0x00, 0x09, 0x47, 0xD0, 0x00, 0x46, 0x58, 0x00, 0x01, 0x40, 0x85,
   0x0D, 0x10, 0x4A, 0x00, 0x00, 0x03, 0x4F, 0x6D, 0x00, 0x20, 0xDD, 0x00,
   0x0C, 0xC4, 0x82, 0x00, 0x00, 0x0D, 0x38, 0x03, 0x00, 0x20, 0x4D, 0x00,
   0x5F, 0xE4, 0x00, 0xC4, 0xB9, 0x00, 0xC0, 0x91, 0x5C, 0x46, 0x58, 0x00,
   0x21, 0xE6, 0x00, 0x20, 0x00, 0xD8, 0x20, 0xA8, 0x00, 0x57, 0x40, 0x00,
   0x45, 0x58, 0x00, 0x24, 0x00, 0x00, 0x03, 0xFC, 0xA4, 0x65, 0xF4, 0x00,
   0x00, 0x03, 0x84, 0x75, 0xD8, 0x00, 0x38, 0x03, 0x00, 0x01, 0x40, 0x85,
   0x0A, 0xF0, 0xAA, 0x00, 0x0F, 0x42, 0x20, 0x4D, 0x00, 0x00, 0x00, 0x0A,
   0xC0, 0xB8, 0x00, 0x57, 0xC0, 0x00, 0x50, 0x60, 0x58, 0x01, 0x40, 0x85,
   0x02, 0xA0, 0x48, 0x00, 0x00, 0x00, 0x5F, 0x65, 0x00, 0x00, 0x00, 0x0C,
   0x46, 0x90, 0x00, 0x57, 0x91, 0x00, 0x0C, 0x1E, 0x91, 0x21, 0xE5, 0x00,
   0x44, 0x92, 0x00, 0x57, 0xF4, 0x00, 0x00, 0xF0, 0x00, 0x20, 0x00, 0x6D,
   0x0A, 0xF0, 0xA2, 0x00, 0x0F, 0x56, 0x44, 0x70, 0x00, 0x00, 0x03, 0xFB,
   0x20, 0x85, 0x00, 0x0D, 0x0E, 0x84, 0x61, 0xF0, 0x00, 0x00, 0x02, 0x1E,
   0x0B, 0xE1, 0x80, 0x0A, 0xF0, 0x80, 0x00, 0xC7, 0x19, 0x57, 0xF4, 0x00,
   0x00, 0xF1, 0x00, 0x20, 0x00, 0x6D, 0x0A, 0xF0, 0xA2, 0x00, 0x0F, 0x69,
   0x20, 0xCE, 0x00, 0x0C, 0x1E, 0x90, 0x20, 0x00, 0x40, 0x21, 0xC4, 0x00,
   0x44, 0x70, 0x00, 0x00, 0x03, 0xFC, 0x45, 0xF0, 0x00, 0x00, 0x03, 0xFB,
   0x0D, 0x0E, 0x84, 0x61, 0xF0, 0x00, 0x00, 0x02, 0x1E, 0x0B, 0xE1, 0x80,
   0x0A, 0xF0, 0x80, 0x00, 0xC7, 0x19, 0x57, 0xF4, 0x00, 0x00, 0xF2, 0x00,
   0x20, 0x00, 0x6D, 0x0A, 0xF0, 0xA2, 0x00, 0x0F, 0x78, 0x44, 0x70, 0x00,
   0x00, 0x03, 0xFD, 0x45, 0xF0, 0x00, 0x00, 0x03, 0xFB, 0x0D, 0x0E, 0x84,
   0x61, 0xF0, 0x00, 0x00, 0x02, 0x1E, 0x0B, 0xE1, 0x80, 0x0A, 0xF0, 0x80,
   0x00, 0xC7, 0x19, 0x57, 0xF4, 0x00, 0x00, 0xF3, 0x00, 0x20, 0x00, 0x6D,
   0x0A, 0xF0, 0xA2, 0x00, 0x0F, 0x81, 0x0B, 0xF0, 0x80, 0x00, 0x10, 0xEF,
   0x0A, 0xF0, 0x80, 0x00, 0xC7, 0x19, 0x57, 0xF4, 0x00, 0x00, 0xF4, 0x00,
   0x20, 0x00, 0x6D, 0x0A, 0xF0, 0xA2, 0x00, 0x0F, 0x8E, 0x0A, 0xC6, 0x00,
   0x00, 0x0F, 0x89, 0x0D, 0x0D, 0xC6, 0x60, 0xF4, 0x00, 0x00, 0x03, 0x68,
   0x44, 0x60, 0x00, 0x0A, 0xF0, 0x80, 0x00, 0xC7, 0x19, 0x57, 0xF4, 0x00,
   0x00, 0xD0, 0x00, 0x20, 0x00, 0x6D, 0x0A, 0xF0, 0xA2, 0x00, 0x0F, 0xA3,
   0x20, 0xCE, 0x00, 0x0C, 0x1E, 0x90, 0x61, 0xF0, 0x40, 0x00, 0x02, 0x46,
   0x21, 0xC4, 0x00, 0x44, 0x70, 0x00, 0x00, 0x02, 0xB2, 0x0B, 0xE1, 0x80,
   0x45, 0xF0, 0x00, 0x00, 0x03, 0xFB, 0x0D, 0x0E, 0x84, 0x61, 0xF0, 0x00,
   0x00, 0x02, 0x1E, 0x0B, 0xE1, 0x80, 0x0A, 0xF0, 0x80, 0x00, 0xC7, 0x19,
   0x57, 0xF4, 0x00, 0x00, 0xD1, 0x00, 0x20, 0x00, 0x6D, 0x0A, 0xF0, 0xA2,
   0x00, 0x0F, 0xB2, 0x61, 0xF0, 0x00, 0x00, 0x02, 0x1E, 0x44, 0x70, 0x00,
   0x00, 0x02, 0xB3, 0x45, 0xF0, 0x00, 0x00, 0x03, 0xFB, 0x0D, 0x0E, 0x84,
   0x0B, 0xE1, 0x80, 0x0A, 0xF0, 0x80, 0x00, 0xC7, 0x19, 0x57, 0xF4, 0x00,
   0x00, 0xEA, 0x00, 0x20, 0x00, 0x6D, 0x0A, 0xF0, 0xA2, 0x00, 0x0F, 0xD2,
   0x60, 0xF4, 0x00, 0x00, 0x03, 0x96, 0x5F, 0xE0, 0x00, 0x20, 0x00, 0x4D,
   0x0D, 0x10, 0x4A, 0x00, 0x00, 0x05, 0x0A, 0x70, 0x61, 0x00, 0x03, 0x95,
   0x4C, 0x60, 0x00, 0x0A, 0x70, 0x62, 0x00, 0x03, 0x95, 0x20, 0x58, 0x00,
   0x61, 0xF4, 0x00, 0x00, 0x10, 0xE4, 0x61, 0x70, 0x00, 0x00, 0x01, 0xFC,
   0x60, 0x70, 0x00, 0x00, 0x00, 0x43, 0x60, 0xF4, 0x00, 0x00, 0x03, 0x95,
   0x60, 0x70, 0x00, 0x00, 0x03, 0x7F, 0x47, 0xF4, 0x00, 0x0D, 0x52, 0xC9,
   0x47, 0x0D, 0x00, 0x0A, 0xF0, 0x80, 0x00, 0xC7, 0x19, 0x57, 0xF4, 0x00,
   0x00, 0xEB, 0x00, 0x20, 0x00, 0x6D, 0x0A, 0xF0, 0xA2, 0x00, 0x0F, 0xEB,
   0x0A, 0x70, 0x62, 0x00, 0x03, 0x98, 0x60, 0xF4, 0x00, 0x00, 0x03, 0x99,
   0x20, 0x58, 0x00, 0x61, 0xF4, 0x00, 0x00, 0x10, 0xE4, 0x61, 0x70, 0x00,
   0x00, 0x01, 0xFC, 0x60, 0x70, 0x00, 0x00, 0x00, 0x43, 0x60, 0xF4, 0x00,
   0x00, 0x03, 0x98, 0x60, 0x70, 0x00, 0x00, 0x03, 0x7F, 0x47, 0xF4, 0x00,
   0x0D, 0x52, 0xC9, 0x47, 0x0D, 0x00, 0x0A, 0xF0, 0x80, 0x00, 0xC7, 0x19,
   0x57, 0xF4, 0x00, 0x00, 0xEC, 0x00, 0x20, 0x00, 0x6D, 0x0A, 0xF0, 0xA2,
   0x00, 0x0F, 0xF7, 0x20, 0xCE, 0x00, 0x0C, 0x1E, 0x90, 0x20, 0x00, 0x40,
   0x60, 0xF4, 0x00, 0x00, 0x03, 0x79, 0x21, 0xC4, 0x00, 0x0D, 0x0E, 0xE7,
   0x57, 0xF4, 0x00, 0x00, 0xA1, 0x00, 0x20, 0x00, 0x6D, 0x0A, 0xF0, 0xA2,
   0x00, 0x10, 0x0B, 0x61, 0xF4, 0x00, 0x00, 0x10, 0xCE, 0x61, 0x70, 0x00,
   0x00, 0x01, 0xFC, 0x44, 0x70, 0x00, 0x00, 0x00, 0x41, 0x60, 0xF4, 0x00,
   0x00, 0x03, 0x66, 0x60, 0x70, 0x00, 0x00, 0x00, 0x43, 0x47, 0xF4, 0x00,
   0x0D, 0x52, 0xC9, 0x47, 0x0D, 0x00, 0x0A, 0xF0, 0x80, 0x00, 0xC7, 0x19,
   0x57, 0xF4, 0x00, 0x00, 0xA3, 0x00, 0x20, 0x00, 0x6D, 0x0A, 0xF0, 0xA2,
   0x00, 0x10, 0x1F, 0x61, 0xF4, 0x00, 0x00, 0x10, 0xCE, 0x61, 0x70, 0x00,
   0x00, 0x01, 0xFC, 0x44, 0x70, 0x00, 0x00, 0x00, 0x41, 0x60, 0xF4, 0x00,
   0x00, 0x02, 0x50, 0x60, 0x70, 0x00, 0x00, 0x00, 0x43, 0x47, 0xF4, 0x00,
   0x0D, 0x52, 0xC9, 0x47, 0x0D, 0x00, 0x0A, 0xF0, 0x80, 0x00, 0xC7, 0x19,
   0x57, 0xF4, 0x00, 0x00, 0xA4, 0x00, 0x20, 0x00, 0x6D, 0x0A, 0xF0, 0xA2,
   0x00, 0x10, 0x33, 0x61, 0xF4, 0x00, 0x00, 0x10, 0xCE, 0x61, 0x70, 0x00,
   0x00, 0x01, 0xFC, 0x44, 0x70, 0x00, 0x00, 0x00, 0x41, 0x60, 0xF4, 0x00,
   0x00, 0x03, 0x71, 0x60, 0x70, 0x00, 0x00, 0x00, 0x43, 0x47, 0xF4, 0x00,
   0x0D, 0x52, 0xC9, 0x47, 0x0D, 0x00, 0x0A, 0xF0, 0x80, 0x00, 0xC7, 0x19,
   0x57, 0xF4, 0x00, 0x00, 0xA7, 0x00, 0x20, 0x00, 0x6D, 0x0A, 0xF0, 0xA2,
   0x00, 0x10, 0x49, 0x61, 0xF4, 0x00, 0x00, 0x10, 0xC2, 0x20, 0xCE, 0x00,
   0x61, 0x70, 0x00, 0x00, 0x01, 0xFC, 0x0C, 0x1E, 0x90, 0x47, 0xF4, 0x40,
   0x00, 0x00, 0x01, 0x47, 0x70, 0x00, 0x00, 0x00, 0x41, 0x54, 0x70, 0x00,
   0x00, 0x00, 0x43, 0x47, 0xF4, 0x00, 0x0D, 0x52, 0xC9, 0x47, 0x0D, 0x00,
   0x0A, 0xF0, 0x80, 0x00, 0xC7, 0x19, 0x57, 0xF4, 0x00, 0x00, 0xA8, 0x00,
   0x20, 0x00, 0x6D, 0x0A, 0xF0, 0xA2, 0x00, 0x10, 0x5F, 0x61, 0xF4, 0x00,
   0x00, 0x10, 0xCE, 0x20, 0xCE, 0x00, 0x61, 0x70, 0x00, 0x00, 0x01, 0xFC,
   0x0C, 0x1E, 0x90, 0x47, 0xF4, 0x40, 0x00, 0x00, 0x01, 0x47, 0x70, 0x00,
   0x00, 0x00, 0x41, 0x56, 0x70, 0x00, 0x00, 0x00, 0x43, 0x47, 0xF4, 0x00,
   0x0D, 0x52, 0xC9, 0x47, 0x0D, 0x00, 0x0A, 0xF0, 0x80, 0x00, 0xC7, 0x19,
   0x57, 0xF4, 0x00, 0x00, 0xAB, 0x00, 0x20, 0x00, 0x6D, 0x0A, 0xF0, 0xA2,
   0x00, 0x10, 0x77, 0x61, 0xF4, 0x00, 0x00, 0x10, 0xC2, 0x20, 0xCE, 0x00,
   0x61, 0x70, 0x00, 0x00, 0x01, 0xFC, 0x0C, 0x1E, 0x90, 0x46, 0xF4, 0x40,
   0xFF, 0x00, 0x00, 0x47, 0xF4, 0x52, 0x00, 0x00, 0x01, 0x47, 0x70, 0x00,
   0x00, 0x00, 0x41, 0x54, 0x70, 0x00, 0x00, 0x00, 0x43, 0x47, 0xF4, 0x00,
   0x0D, 0x52, 0xC9, 0x47, 0x0D, 0x00, 0x0A, 0xF0, 0x80, 0x00, 0xC7, 0x19,
   0x57, 0xF4, 0x00, 0x00, 0xAD, 0x00, 0x20, 0x00, 0x6D, 0x0A, 0xF0, 0xA2,
   0x00, 0x10, 0x8F, 0x61, 0xF4, 0x00, 0x00, 0x10, 0xCE, 0x20, 0xCE, 0x00,
   0x61, 0x70, 0x00, 0x00, 0x01, 0xFC, 0x0C, 0x1E, 0x90, 0x46, 0xF4, 0x40,
   0xFF, 0x00, 0x00, 0x47, 0xF4, 0x52, 0x00, 0x00, 0x01, 0x47, 0x70, 0x00,
   0x00, 0x00, 0x41, 0x54, 0x70, 0x00, 0x00, 0x00, 0x43, 0x47, 0xF4, 0x00,
   0x0D, 0x52, 0xC9, 0x47, 0x0D, 0x00, 0x0A, 0xF0, 0x80, 0x00, 0xC7, 0x19,
   0x57, 0xF4, 0x00, 0x00, 0xCF, 0x00, 0x20, 0x00, 0x6D, 0x0A, 0xF0, 0xA2,
   0x00, 0x10, 0x9B, 0x20, 0xCE, 0x00, 0x0C, 0x1E, 0x90, 0x20, 0x00, 0x42,
   0x0B, 0xF0, 0x80, 0x00, 0x11, 0x1C, 0x0A, 0xF0, 0x80, 0x00, 0xC7, 0x19,
   0x57, 0xF4, 0x00, 0x00, 0xF5, 0x00, 0x20, 0x00, 0x6D, 0x0A, 0xF0, 0xA2,
   0x00, 0x10, 0xA8, 0x56, 0x94, 0x00, 0x0C, 0x1E, 0xD4, 0x20, 0x00, 0x43,
   0x0A, 0xCC, 0x00, 0x00, 0xC7, 0x19, 0x0B, 0x14, 0x0A, 0x0A, 0xF0, 0x80,
   0x00, 0x11, 0x13, 0x0A, 0xF0, 0x80, 0x00, 0xC3, 0xC5, 0x05, 0xF4, 0x20,
   0xFF, 0xFF, 0xFF, 0x60, 0xF0, 0x00, 0x00, 0x00, 0x42, 0x56, 0x8F, 0x00,
   0x47, 0xF4, 0x00, 0x00, 0x00, 0x01, 0x57, 0xF0, 0x00, 0x00, 0x00, 0x40,
   0x07, 0x58, 0x8C, 0x60, 0x70, 0x7C, 0x00, 0x00, 0x42, 0x0A, 0xF0, 0xA2,
   0x00, 0x10, 0xBF, 0x61, 0xF4, 0x00, 0x00, 0x0F, 0x43, 0x61, 0x70, 0x00,
   0x00, 0x01, 0xFC, 0x47, 0xF4, 0x00, 0x00, 0x00, 0x00, 0x47, 0x0D, 0x00,
   0x57, 0x70, 0x00, 0x00, 0x00, 0x40, 0x00, 0x00, 0x0C, 0x05, 0xF4, 0x20,
   0xFF, 0xFF, 0xFF, 0x47, 0xF4, 0x00, 0x00, 0x00, 0x01, 0x45, 0x8F, 0x00,
   0x60, 0xF0, 0x00, 0x00, 0x00, 0x43, 0x57, 0xF0, 0x00, 0x00, 0x00, 0x41,
   0x45, 0x58, 0x00, 0x0A, 0xF0, 0x80, 0x00, 0x10, 0xD6, 0x47, 0xF4, 0x00,
   0x00, 0x00, 0x01, 0x45, 0x8F, 0x00, 0x60, 0xF0, 0x00, 0x00, 0x00, 0x43,
   0x57, 0xF0, 0x00, 0x00, 0x00, 0x41, 0x4D, 0x58, 0x00, 0x60, 0x70, 0x7C,
   0x00, 0x00, 0x43, 0x0A, 0xF0, 0xA2, 0x00, 0x10, 0xE1, 0x61, 0xF4, 0x00,
   0x00, 0x0F, 0x43, 0x61, 0x70, 0x00, 0x00, 0x01, 0xFC, 0x47, 0xF4, 0x00,
   0x00, 0x00, 0x00, 0x47, 0x0D, 0x00, 0x57, 0x70, 0x00, 0x00, 0x00, 0x41,
   0x00, 0x00, 0x0C, 0x47, 0xF4, 0x00, 0x00, 0x00, 0x01, 0x47, 0x70, 0x00,
   0x00, 0x00, 0x41, 0x61, 0xF4, 0x00, 0x00, 0x10, 0xCE, 0x0B, 0xE1, 0x80,
   0x60, 0xF0, 0x00, 0x00, 0x03, 0x7F, 0x0A, 0x60, 0x60, 0x00, 0x00, 0x0C,
   0x0A, 0x70, 0x60, 0x00, 0x03, 0x9C, 0x0A, 0x70, 0x62, 0x00, 0x03, 0x9C,
   0x60, 0xF4, 0x00, 0x00, 0x03, 0x9D, 0x20, 0x58, 0x00, 0x46, 0xF4, 0x00,
   0x7F, 0xFF, 0xFF, 0x0A, 0xC4, 0x00, 0x00, 0x10, 0xFC, 0x46, 0xF4, 0x00,
   0x2D, 0x6A, 0x86, 0x4E, 0x60, 0x00, 0x00, 0x00, 0x0C, 0x44, 0xF0, 0x00,
   0x00, 0x01, 0xA9, 0x45, 0xF0, 0x00, 0x00, 0x01, 0xAA, 0x45, 0x70, 0x00,
   0x00, 0x01, 0xA9, 0x44, 0x70, 0x00, 0x00, 0x01, 0xAA, 0x44, 0xF0, 0x00,
   0x00, 0x01, 0xAB, 0x45, 0xF0, 0x00, 0x00, 0x01, 0xAC, 0x45, 0x70, 0x00,
   0x00, 0x01, 0xAB, 0x44, 0x70, 0x00, 0x00, 0x01, 0xAC, 0x00, 0x00, 0x0C,
   0x0B, 0xF0, 0x80, 0x00, 0xC9, 0x95, 0x0C, 0x94, 0x8A, 0x00, 0x00, 0x0A,
   0x4E, 0xF0, 0x00, 0x00, 0x03, 0x82, 0x4F, 0xF0, 0x00, 0x00, 0x03, 0x83,
   0x4F, 0x70, 0x00, 0x00, 0x03, 0x82, 0x4E, 0x70, 0x00, 0x00, 0x03, 0x83,
   0x00, 0x00, 0x0C, 0x0A, 0xCC, 0x02, 0x00, 0x11, 0x1F, 0x0A, 0xCC, 0x63,
   0x54, 0x70, 0x00, 0x00, 0x00, 0x46, 0x00, 0x00, 0x0C,
   -- Generic Write (X)
   0x02, 0xA7, 0xE0, 0x00, 0x00, 0x00, 0x02, 0xA7, 0xE1, 0x00, 0x00, 0x00,
   0x02, 0xA7, 0xE2, 0x02, 0x55, 0x96, 0x02, 0xA7, 0xE3, 0x02, 0x79, 0x1F,
   0x02, 0xA7, 0xE4, 0x02, 0x9E, 0xC5, 0x02, 0xA7, 0xE5, 0x02, 0xC6, 0xA8,
   0x02, 0xA7, 0xE6, 0x02, 0xF0, 0xEA, 0x02, 0xA7, 0xE7, 0x03, 0x1D, 0xAF,
   0x02, 0xA7, 0xE8, 0x03, 0x4D, 0x1E, 0x02, 0xA7, 0xE9, 0x03, 0x7F, 0x5F,
   0x02, 0xA7, 0xEA, 0x03, 0xB4, 0x9D, 0x02, 0xA7, 0xEB, 0x03, 0xED, 0x05,
   0x02, 0xA7, 0xEC, 0x04, 0x28, 0xC8, 0x02, 0xA7, 0xED, 0x04, 0x68, 0x19,
   0x02, 0xA7, 0xEE, 0x04, 0xAB, 0x2D, 0x02, 0xA7, 0xEF, 0x04, 0xF2, 0x3F,
   0x02, 0xA7, 0xF0, 0x05, 0x3D, 0x8A, 0x02, 0xA7, 0xF1, 0x05, 0x8D, 0x50,
   0x02, 0xA7, 0xF2, 0x05, 0xE1, 0xD4, 0x02, 0xA7, 0xF3, 0x06, 0x3B, 0x5F,
   0x02, 0xA7, 0xF4, 0x06, 0x9A, 0x3D, 0x02, 0xA7, 0xF5, 0x06, 0xFE, 0xBF,
   0x02, 0xA7, 0xF6, 0x07, 0x69, 0x3B, 0x02, 0xA7, 0xF7, 0x07, 0xDA, 0x0C,
   0x02, 0xA7, 0xF8, 0x08, 0x51, 0x92, 0x02, 0xA7, 0xF9, 0x08, 0xD0, 0x34,
   0x02, 0xA7, 0xFA, 0x09, 0x56, 0x5D, 0x02, 0xA7, 0xFB, 0x09, 0xE4, 0x81,
   0x02, 0xA7, 0xFC, 0x0A, 0x7B, 0x19, 0x02, 0xA7, 0xFD, 0x0B, 0x1A, 0xA6,
   0x02, 0xA7, 0xFE, 0x0B, 0xC3, 0xAF, 0x02, 0xA7, 0xFF, 0x0C, 0x76, 0xC5,
   0x03, 0xA7, 0x00, 0x0D, 0x34, 0x82, 0x03, 0xA7, 0x01, 0x0D, 0xFD, 0x88,
   0x03, 0xA7, 0x02, 0x0E, 0xD2, 0x82, 0x03, 0xA7, 0x03, 0x0F, 0xB4, 0x26,
   0x03, 0xA7, 0x04, 0x10, 0xA3, 0x36, 0x03, 0xA7, 0x05, 0x11, 0xA0, 0x7D,
   0x03, 0xA7, 0x06, 0x12, 0xAC, 0xD4, 0x03, 0xA7, 0x07, 0x13, 0xC9, 0x21,
   0x03, 0xA7, 0x08, 0x14, 0xF6, 0x56, 0x03, 0xA7, 0x09, 0x16, 0x35, 0x76,
   0x03, 0xA7, 0x0A, 0x17, 0x87, 0x91, 0x03, 0xA7, 0x0B, 0x18, 0xED, 0xC8,
   0x03, 0xA7, 0x0C, 0x1A, 0x69, 0x4D, 0x03, 0xA7, 0x0D, 0x1B, 0xFB, 0x66,
   0x03, 0xA7, 0x0E, 0x1D, 0xA5, 0x6A, 0x03, 0xA7, 0x0F, 0x1F, 0x68, 0xC5,
   0x03, 0xA7, 0x10, 0x21, 0x46, 0xFB, 0x03, 0xA7, 0x11, 0x23, 0x41, 0xA5,
   0x03, 0xA7, 0x12, 0x25, 0x5A, 0x74, 0x03, 0xA7, 0x13, 0x27, 0x93, 0x34,
   0x03, 0xA7, 0x14, 0x29, 0xED, 0xCD, 0x03, 0xA7, 0x15, 0x2C, 0x6C, 0x42,
   0x03, 0xA7, 0x16, 0x2F, 0x10, 0xB8, 0x03, 0xA7, 0x17, 0x31, 0xDD, 0x73,
   0x03, 0xA7, 0x18, 0x34, 0xD4, 0xDA, 0x03, 0xA7, 0x19, 0x37, 0xF9, 0x78,
   0x03, 0xA7, 0x1A, 0x3B, 0x4E, 0x02, 0x03, 0xA7, 0x1B, 0x3E, 0xD5, 0x54,
   0x03, 0xA7, 0x1C, 0x01, 0x0A, 0x4A, 0x03, 0xA7, 0x1D, 0x01, 0x1A, 0x23,
   0x03, 0xA7, 0x1E, 0x01, 0x2A, 0xED, 0x03, 0xA7, 0x1F, 0x01, 0x3C, 0xB8,
   0x03, 0xA7, 0x20, 0x01, 0x4F, 0x92, 0x03, 0xA7, 0x21, 0x01, 0x63, 0x8D,
   0x03, 0xA7, 0x22, 0x01, 0x78, 0xB9, 0x03, 0xA7, 0x23, 0x01, 0x8F, 0x28,
   0x03, 0xA7, 0x24, 0x01, 0xA6, 0xEF, 0x03, 0xA7, 0x25, 0x01, 0xC0, 0x21,
   0x03, 0xA7, 0x26, 0x01, 0xDA, 0xD6, 0x03, 0xA7, 0x27, 0x01, 0xF7, 0x24,
   0x03, 0xA7, 0x28, 0x02, 0x15, 0x24, 0x03, 0xA7, 0x29, 0x02, 0x34, 0xF1,
   0x03, 0xA7, 0x2A, 0x02, 0x56, 0xA6, 0x03, 0xA7, 0x2B, 0x02, 0x7A, 0x63,
   0x03, 0xA7, 0x2C, 0x02, 0xA0, 0x46, 0x03, 0xA7, 0x2D, 0x02, 0xC8, 0x71,
   0x03, 0xA7, 0x2E, 0x02, 0xF3, 0x0A, 0x03, 0xA7, 0x2F, 0x03, 0x20, 0x37,
   0x03, 0xA7, 0x30, 0x03, 0x50, 0x20, 0x03, 0xA7, 0x31, 0x03, 0x82, 0xF4,
   0x03, 0xA7, 0x32, 0x03, 0xB8, 0xE0, 0x03, 0xA7, 0x33, 0x03, 0xF2, 0x17,
   0x03, 0xA7, 0x34, 0x04, 0x2E, 0xD1, 0x03, 0xA7, 0x35, 0x04, 0x6F, 0x48,
   0x03, 0xA7, 0x36, 0x04, 0xB3, 0xBA, 0x03, 0xA7, 0x37, 0x04, 0xFC, 0x6D,
   0x03, 0xA7, 0x38, 0x05, 0x49, 0xA9, 0x03, 0xA7, 0x39, 0x05, 0x9B, 0xBF,
   0x03, 0xA7, 0x3A, 0x05, 0xF3, 0x04, 0x03, 0xA7, 0x3B, 0x06, 0x4F, 0xD8,
   0x03, 0xA7, 0x3C, 0x06, 0xB2, 0xA2, 0x03, 0xA7, 0x3D, 0x07, 0x1B, 0xD1,
   0x03, 0xA7, 0x3E, 0x07, 0x8B, 0xE2, 0x03, 0xA7, 0x3F, 0x08, 0x03, 0x5E,
   0x03, 0xA7, 0x40, 0x08, 0x82, 0xDC, 0x03, 0xA7, 0x41, 0x09, 0x0B, 0x05,
   0x03, 0xA7, 0x42, 0x09, 0x9C, 0x95, 0x03, 0xA7, 0x43, 0x0A, 0x38, 0x5E,
   0x03, 0xA7, 0x44, 0x0A, 0xDF, 0x51, 0x03, 0xA7, 0x45, 0x0B, 0x92, 0x7D,
   0x03, 0xA7, 0x46, 0x0C, 0x53, 0x17, 0x03, 0xA7, 0x47, 0x0D, 0x22, 0x84,
   0x03, 0xA7, 0x48, 0x0E, 0x02, 0x61, 0x03, 0xA7, 0x49, 0x0E, 0xF4, 0x91,
   0x03, 0xA7, 0x4A, 0x0F, 0xFB, 0x4D, 0x03, 0xA7, 0x4B, 0x11, 0x19, 0x37,
   0x03, 0xA7, 0x4C, 0x12, 0x51, 0x77, 0x03, 0xA7, 0x4D, 0x13, 0xA7, 0xE3,
   0x03, 0xA7, 0x4E, 0x15, 0x21, 0x2B, 0x03, 0xA7, 0x4F, 0x16, 0xC3, 0x21,
   0x03, 0xA7, 0x50, 0x18, 0x95, 0x18, 0x03, 0xA7, 0x51, 0x1A, 0xA0, 0x69,
   0x03, 0xA7, 0x52, 0x1C, 0xF1, 0x39, 0x03, 0xA7, 0x53, 0x1F, 0x97, 0xA2,
   0x03, 0xA7, 0x54, 0x22, 0xA9, 0x72, 0x03, 0xA7, 0x55, 0x26, 0x45, 0x00,
   0x03, 0xA7, 0x56, 0x2A, 0x95, 0xCE, 0x03, 0xA7, 0x57, 0x2F, 0xDC, 0xA1,
   0x03, 0xA7, 0x58, 0x36, 0x7E, 0x5D, 0x03, 0xA7, 0x59, 0x3F, 0x21, 0x66,
   0x03, 0xA7, 0x5A, 0x4A, 0xED, 0x42, 0x03, 0xA7, 0x5B, 0x5C, 0x26, 0x73,
   0x03, 0xA7, 0x5C, 0x77, 0xF3, 0xD5, 0x03, 0xA7, 0x5D, 0x77, 0xF3, 0xD5,
   0x03, 0xA7, 0x5E, 0x77, 0xF3, 0xD5, 0x03, 0xA7, 0x5F, 0x77, 0xF3, 0xD5,
   0x03, 0xA7, 0x60, 0x77, 0xF3, 0xD5, 0x03, 0xA7, 0x61, 0x77, 0xF3, 0xD5,
   0x03, 0xA7, 0x62, 0x77, 0xF3, 0xD5, 0x03, 0xA7, 0x63, 0x77, 0xF3, 0xD5,
   0x03, 0xA7, 0x64, 0x77, 0xF3, 0xD5, 0x03, 0xA7, 0x65, 0x77, 0xF3, 0xD5,
   0x03, 0xA7, 0x66, 0x77, 0xF3, 0xD5, 0x03, 0xA7, 0x67, 0x77, 0xF3, 0xD5,
   -- Setup Completed
   0x00, 0xAC, 0x00, 0x00, 0xF0, 0x00, 0x01, 0xF1, 0xD6, 0x00, 0xF2, 0x01,
   0x00, 0xF3, 0x00, 0x00, 0xF4, 0x01, 0x00, 0xAC, 0x00]

end Sounder.Npca110
