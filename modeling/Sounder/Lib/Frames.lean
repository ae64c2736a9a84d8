import Mathlib.Data.List.Basic

/-!
# Framed streams

A receiver that reads a stream of words as frames: a command word, followed by
as many data words as the command takes (`arity`). Each data word acts on the
state of the receiver, together with its command (`act`).

A receiver is *idle* at the end of a frame. What it does with further words then
only depends on its state (`Rel.feedAll`), and only up to a relation that the
actions preserve: this is how what a stream of words does from a known state is
carried over to the states that are not known.
-/

namespace Sounder

/-- A receiver of frames of words `W`, with the state `κ`. -/
structure Receiver (W κ : Type*) where
  /-- The last command word read. -/
  head : Option W
  /-- The data words it still takes. -/
  waiting : ℕ
  /-- What the frames act on. -/
  state : κ

namespace Receiver

variable {W κ : Type*} (arity : W → ℕ) (act : W → W → κ → κ)

/-- Reading the word `w`: as data of the command being read, or as a command. -/
def feed (r : Receiver W κ) (w : W) : Receiver W κ :=
  match r.waiting, r.head with
  | 0, _ => { r with head := some w, waiting := arity w }
  | n + 1, some c => { r with waiting := n, state := act c w r.state }
  | n + 1, none => { r with waiting := n }

/-- Reading the words `ws`. -/
def feedAll (r : Receiver W κ) (ws : List W) : Receiver W κ := ws.foldl (feed arity act) r

/-- No frame is being read. -/
def Idle (r : Receiver W κ) : Prop := r.waiting = 0

instance (r : Receiver W κ) : Decidable r.Idle := inferInstanceAs (Decidable (_ = _))

variable {arity act}

@[simp] theorem feedAll_nil (r : Receiver W κ) : r.feedAll arity act [] = r := rfl

@[simp] theorem feedAll_append (r : Receiver W κ) (ws ws' : List W) :
    r.feedAll arity act (ws ++ ws') = (r.feedAll arity act ws).feedAll arity act ws' :=
  List.foldl_append

/-- Two receivers at the same point of a frame, with related states. -/
structure Rel (R : κ → κ → Prop) (r r' : Receiver W κ) : Prop where
  waiting : r.waiting = r'.waiting
  head : r.waiting ≠ 0 → r.head = r'.head
  state : R r.state r'.state

theorem Rel.feed {R : κ → κ → Prop} (hR : ∀ c w x y, R x y → R (act c w x) (act c w y))
    {r r' : Receiver W κ} (h : Rel R r r') (w : W) :
    Rel R (r.feed arity act w) (r'.feed arity act w) := by
  obtain ⟨head, waiting, x⟩ := r
  obtain ⟨head', waiting', x'⟩ := r'
  obtain ⟨rfl, hh, hs⟩ := h
  cases waiting with
  | zero => exact ⟨rfl, fun _ => rfl, hs⟩
  | succ n =>
    obtain rfl : head = head' := hh (Nat.succ_ne_zero n)
    cases head with
    | none => exact ⟨rfl, fun _ => rfl, hs⟩
    | some c => exact ⟨rfl, fun _ => rfl, hR c w x x' hs⟩

/-- Related receivers stay related, reading the same words. -/
theorem Rel.feedAll {R : κ → κ → Prop} (hR : ∀ c w x y, R x y → R (act c w x) (act c w y))
    {r r' : Receiver W κ} (h : Rel R r r') (ws : List W) :
    Rel R (r.feedAll arity act ws) (r'.feedAll arity act ws) := by
  induction ws generalizing r r' with
  | nil => exact h
  | cons w ws ih => exact ih (h.feed hR w)

/-- Idle receivers with related states are related, whatever they read before. -/
theorem Rel.of_idle {R : κ → κ → Prop} {r r' : Receiver W κ} (h : r.Idle) (h' : r'.Idle)
    (hs : R r.state r'.state) : Rel R r r' :=
  ⟨h.trans h'.symm, fun hne => absurd h hne, hs⟩

variable (arity act) in
/-- Idle receivers wait for the same number of data words, after the same words. -/
theorem waiting_feedAll_of_idle {r r' : Receiver W κ} (h : r.Idle) (h' : r'.Idle) (ws : List W) :
    (r.feedAll arity act ws).waiting = (r'.feedAll arity act ws).waiting :=
  ((Rel.of_idle (R := fun _ _ => True) h h' trivial).feedAll (fun _ _ _ _ _ => trivial) ws).waiting

end Receiver

end Sounder
