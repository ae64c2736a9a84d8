/-!
# The tables of the ntp8230

The register tables of `ntp8230.h`: an entry is the address of a register, followed
by its value, of one byte or of four. The registers are spread over pages, and each
table is for one of them.
-/

namespace Sounder.Ntp8230

/-- A message to the amplifier. -/
abbrev Row := List UInt8

/-- `ntp8230_init_part1`, on page 0: clocks, volumes, prescalers and mixers. -/
def initPart1 : List Row :=
  [[0x02, 0x00], [0x00, 0x00], [0x52, 0x00], [0x62, 0x16], [0x61, 0x81], [0x55, 0x0A],
   [0x2E, 0xCF], [0x2D, 0x06], [0x2F, 0xCF], [0x30, 0xCF], [0x31, 0xCF], [0x38, 0x00],
   [0x15, 0xFF], [0x16, 0xD3], [0x03, 0x4E], [0x04, 0x00], [0x05, 0x00], [0x06, 0x4E],
   [0x07, 0x36], [0x08, 0x36], [0x2C, 0x43], [0x24, 0x00], [0x25, 0x00], [0x4A, 0x01],
   [0x4B, 0x01], [0x1C, 0xA8], [0x20, 0xA8]]

/-- `ntp8230_drc_part0`, on page 3: the coefficients of the DRC. -/
def drcPart0 : List Row :=
  [[0x46, 0x0C, 0x04, 0x9A, 0xCD], [0x47, 0x0C, 0x04, 0x9A, 0xCD], [0x48, 0x20, 0x00, 0x00, 0x00],
   [0x49, 0x10, 0x6F, 0x6C, 0xA6], [0x4A, 0x20, 0x00, 0x00, 0x00], [0x4B, 0x07, 0x0D, 0xD1, 0x50],
   [0x4C, 0x08, 0x0D, 0xD1, 0x50], [0x4D, 0x07, 0x0D, 0xD1, 0x50], [0x4E, 0x11, 0x77, 0x2A, 0xCE],
   [0x4F, 0x10, 0xEF, 0x71, 0x3E], [0x50, 0x10, 0x77, 0xB6, 0x53], [0x51, 0x10, 0xF7, 0xB6, 0x53],
   [0x52, 0x20, 0x00, 0x00, 0x00], [0x53, 0x10, 0x6F, 0x6C, 0xA6], [0x54, 0x20, 0x00, 0x00, 0x00],
   [0x55, 0x10, 0x77, 0x71, 0xB6], [0x56, 0x11, 0xF7, 0x71, 0xB6], [0x57, 0x10, 0x77, 0x71, 0xB6],
   [0x58, 0x11, 0x77, 0x2A, 0xCE], [0x59, 0x10, 0xEF, 0x71, 0x3E]]

/-- `ntp8230_drc_part1`, on page 0: the controls of the DRC. -/
def drcPart1 : List Row :=
  [[0x1C, 0xA8], [0x1D, 0x01], [0x1E, 0xA8], [0x1F, 0x01], [0x25, 0x11], [0x22, 0xA8],
   [0x23, 0x41], [0x20, 0xA8], [0x21, 0x01]]

/-- `ntp8230_highfreq_div`, on page 3: the high frequency divider, at 210 Hz. -/
def highfreqDiv : List Row :=
  [[0x00, 0x10, 0x7D, 0x7F, 0xD1], [0x01, 0x11, 0xFD, 0x7F, 0xD1], [0x02, 0x10, 0x7D, 0x7F, 0xD1],
   [0x03, 0x11, 0x7D, 0x7C, 0xC0], [0x04, 0x10, 0xFB, 0x05, 0xC1], [0x05, 0x10, 0x7D, 0xA9, 0xE7],
   [0x06, 0x11, 0xFD, 0xA9, 0xE7], [0x07, 0x10, 0x7D, 0xA9, 0xE7], [0x08, 0x11, 0x7D, 0xA6, 0xD5],
   [0x09, 0x10, 0xFB, 0x59, 0xEF], [0x14, 0x10, 0x7D, 0xA9, 0xE7], [0x15, 0x11, 0xFD, 0xA9, 0xE7],
   [0x16, 0x10, 0x7D, 0xA9, 0xE7], [0x17, 0x11, 0x7D, 0xA6, 0xD5], [0x18, 0x10, 0xFB, 0x59, 0xEF]]

/-- `ntp8230_lowfreq_div`, on page 4: the low frequency divider, at 210 Hz. -/
def lowfreqDiv : List Row :=
  [[0x00, 0x02, 0x44, 0x53, 0x7D], [0x01, 0x03, 0x44, 0x53, 0x7D], [0x02, 0x02, 0x44, 0x53, 0x7D],
   [0x03, 0x11, 0x7D, 0xA6, 0xD5], [0x04, 0x10, 0xFB, 0x59, 0xEF], [0x05, 0x02, 0x44, 0x32, 0xEB],
   [0x06, 0x03, 0x44, 0x32, 0xEB], [0x07, 0x02, 0x44, 0x32, 0xEB], [0x08, 0x11, 0x7D, 0x7C, 0xC0],
   [0x09, 0x10, 0xFB, 0x05, 0xC1], [0x0A, 0x02, 0x44, 0x53, 0x7D], [0x0B, 0x03, 0x44, 0x53, 0x7D],
   [0x0C, 0x02, 0x44, 0x53, 0x7D], [0x0D, 0x11, 0x7D, 0xA6, 0xD5], [0x0E, 0x10, 0xFB, 0x59, 0xEF]]

/-- `ntp8230_init_part4`, on page 0: the PWM mask, and the un-mutes. -/
def initPart4 : List Row :=
  [[0x0C, 0x3F], [0x17, 0x1F], [0x18, 0x1F], [0x19, 0x15], [0x1A, 0x15], [0x28, 0x04],
   [0x27, 0x00], [0x26, 0x00]]

end Sounder.Ntp8230
