import Sounder.Ntp8230.Chip
import Sounder.Ntp8230.Passes

/-!
# The page of a register

Whether every message of a table that the amplifier accepts is stored on the page
that the table is for, for any sequence of work items from power-on.

It is not in every run (`not_placed`): the result of a page select is dropped, so that
the entries of the table after one that is refused go to the page selected before,
which may be the one an earlier item left. It is exactly if each table starts on its
own page, or does not get its first entry accepted (`placed_iff`).
-/

namespace Sounder.Ntp8230

open Retry

/-- The page that a message is for, by the table it is an entry of; page selects are
    for none. -/
def pageOf (row : Row) : Option UInt8 :=
  if row ∈ drcPart0 ∨ row ∈ highfreqDiv then some 3
  else if row ∈ lowfreqDiv then some 4
  else if row ∈ initPart1 ∨ row ∈ drcPart1 ∨ row ∈ initPart4 ∨ row ∈ muteRows then some 0
  else none

/-- The page selected after some messages, from page `p` on. -/
def pageAfter (p : UInt8) (rows : List Row) : UInt8 := Paged.pageAfter p (rows.map decode)

/-- Each message that is for a page is accepted while that page is selected. -/
def Placed (p : UInt8) (rows : List Row) : Prop :=
  ∀ pre row post, rows = pre ++ row :: post → ∀ q ∈ pageOf row, pageAfter p pre = q

theorem pageAfter_append (p : UInt8) (rows rows' : List Row) :
    pageAfter p (rows ++ rows') = pageAfter (pageAfter p rows) rows' := by
  rw [pageAfter, List.map_append, Paged.pageAfter_append]
  rfl

theorem placed_append {p : UInt8} {rows rows' : List Row} :
    Placed p (rows ++ rows') ↔ Placed p rows ∧ Placed (pageAfter p rows) rows' := by
  constructor
  · intro h
    refine ⟨fun pre row post he q hq => ?_, fun pre row post he q hq => ?_⟩
    · exact h pre row (post ++ rows') (by simp [he]) q hq
    · rw [← pageAfter_append]
      exact h (rows ++ pre) row post (by simp [he]) q hq
  · rintro ⟨h, h'⟩ pre row post he q hq
    rcases List.append_eq_append_iff.1 he with ⟨l, rfl, hl⟩ | ⟨l, rfl, hl⟩
    · rw [pageAfter_append]
      exact h' l row post hl q hq
    · cases l with
      | nil =>
        have hp := h' [] row post hl.symm q hq
        rwa [List.append_nil] at hp
      | cons x l =>
        obtain ⟨rfl, -⟩ := List.cons.inj hl
        exact h pre row l rfl q hq

/-- An entry of a table is no page select. -/
theorem headD_ne_of_pageOf {row : Row} {q : UInt8} (h : pageOf row = some q) :
    row.headD 0 ≠ 0x7E := by
  have htables : ∀ row ∈ drcPart0 ++ highfreqDiv ++ lowfreqDiv ++ initPart1 ++ drcPart1 ++
      initPart4 ++ muteRows, row.headD 0 ≠ 0x7E := by decide
  refine htables row ?_
  simp only [List.mem_append]
  rw [pageOf] at h
  grind

/-! ## One send -/

/-- The messages of one send: a page select, or messages for one page. -/
inductive IsSend : List Row → Prop
  | select (q : UInt8) : IsSend [[0x7E, q]]
  | table (q : UInt8) {rows : List Row} : (∀ row ∈ rows, pageOf row = some q) → IsSend rows

/-- A send starts on the page of its messages, or gets none accepted. -/
def StartsOnPage (p : UInt8) (rows : List Row) (results : Stream' ℤ) : Prop :=
  (∀ q ∈ rows.head?.bind pageOf, p = q) ∨ ¬Accepts 3 results

instance (p : UInt8) (rows : List Row) (results : Stream' ℤ) :
    Decidable (StartsOnPage p rows results) :=
  inferInstanceAs (Decidable (_ ∨ _))

/-- The messages of a send that are accepted. -/
def acceptedBy (rows : List Row) (results : Stream' ℤ) : List Row :=
  rows.take (count 3 rows.length results)

theorem pageOf_select (q : UInt8) : pageOf [0x7E, q] = none := by
  by_contra h
  obtain ⟨p, hp⟩ := Option.ne_none_iff_exists'.1 h
  exact headD_ne_of_pageOf hp rfl

/-- Messages for a page leave it selected. -/
theorem pageAfter_of_forall {p q : UInt8} {rows : List Row}
    (h : ∀ row ∈ rows, pageOf row = some q) : pageAfter p rows = p := by
  induction rows with
  | nil => rfl
  | cons row rows ih =>
    obtain ⟨hrow, hrows⟩ := List.forall_mem_cons.1 h
    rw [pageAfter, List.map_cons, decode, if_neg (headD_ne_of_pageOf hrow)]
    exact ih hrows

theorem placed_acceptedBy_iff {p : UInt8} {rows : List Row} (h : IsSend rows)
    (results : Stream' ℤ) :
    Placed p (acceptedBy rows results) ↔ StartsOnPage p rows results := by
  cases h with
  | select q =>
    refine iff_of_true (fun pre row post he r hr => ?_) (.inl fun r hr => ?_)
    · have hrow : row ∈ acceptedBy [[0x7E, q]] results := by simp [he]
      obtain rfl := List.mem_singleton.1 (List.mem_of_mem_take hrow)
      simp [pageOf_select] at hr
    · simp [pageOf_select] at hr
  | table q h =>
    cases rows with
    | nil => exact iff_of_true (fun pre row post he => by simp [acceptedBy] at he) (.inl (by simp))
    | cons row rows =>
      have hrow := h row List.mem_cons_self
      by_cases ha : Accepts 3 results
      · have htake : acceptedBy (row :: rows) results =
            row :: rows.take (count 3 rows.length (rest 3 results)) := by
          simp [acceptedBy, count, ha]
        have hpage : StartsOnPage p (row :: rows) results ↔ p = q := by
          simp [StartsOnPage, hrow, ha]
        rw [htake, hpage]
        constructor
        · exact fun hp => hp [] row _ rfl q (by simp [hrow])
        · rintro rfl pre row' post he r hr
          have hmem : ∀ x ∈ pre ++ row' :: post, pageOf x = some p := fun x hx => by
            rw [← he] at hx
            exact h x (List.cons_subset_cons row (List.take_subset _ _) hx)
          rw [hmem row' (by simp)] at hr
          rw [pageAfter_of_forall fun x hx => hmem x (List.mem_append_left _ hx)]
          exact Option.some.inj hr
      · refine iff_of_true (fun pre row post he => ?_) (.inr ha)
        simp [acceptedBy, count, ha] at he

/-! ## Several sends -/

/-- Each send starts on the page of its messages, or gets none accepted. -/
def StartOnPages : UInt8 → List (List Row) → Stream' ℤ → Prop
  | _, [], _ => True
  | p, rows :: sends, results =>
    StartsOnPage p rows results ∧
      StartOnPages (pageAfter p (acceptedBy rows results)) sends (restAll 3 rows.length results)

instance decidableStartOnPages : ∀ p sends results, Decidable (StartOnPages p sends results)
  | _, [], _ => .isTrue trivial
  | p, rows :: sends, results =>
    haveI := decidableStartOnPages (pageAfter p (acceptedBy rows results)) sends
      (restAll 3 rows.length results)
    inferInstanceAs (Decidable (StartsOnPage p rows results ∧ _))

theorem placed_attemptsEach_iff {p : UInt8} {sends : List (List Row)}
    (h : ∀ rows ∈ sends, IsSend rows) (results : Stream' ℤ) :
    Placed p (Retry.accepted (attemptsEach 3 sends results)) ↔ StartOnPages p sends results := by
  induction sends generalizing p results with
  | nil =>
    refine iff_of_true (fun pre row post he => ?_) trivial
    simp [attemptsEach, Retry.accepted] at he
  | cons rows sends ih =>
    obtain ⟨hrows, hsends⟩ := List.forall_mem_cons.1 h
    rw [attemptsEach, Retry.accepted_append, placed_append, accepted_attempts, StartOnPages,
      ← placed_acceptedBy_iff hrows, ← ih hsends]
    rfl

/-- What the work items send, one by one. -/
theorem isSend_of_mem_sends (w : Work) (f : Bool) : ∀ rows ∈ sends w f, IsSend rows := by
  have hinit : ∀ rows ∈ initSends, IsSend rows := by
    simp only [initSends, List.forall_mem_cons]
    exact ⟨.table 0 (by decide), .select 3, .table 3 (by decide), .select 0, .table 0 (by decide),
      .select 3, .table 3 (by decide), .select 4, .table 4 (by decide), .select 0,
      .table 0 (by decide), by simp⟩
  have hmute : ∀ rows ∈ muteSends, IsSend rows := by
    simp only [muteSends, List.forall_mem_cons]
    exact ⟨.table 0 (by decide), .table 0 (by decide), .table 0 (by decide), by simp⟩
  cases w with
  | suspend =>
    cases f with
    | false => exact hmute
    | true => simp [sends]
  | _ => exact hinit

/-! ## Runs -/

variable {client : Client} {results : Stream' ℤ} {pins : Pin → Bool} {is : List Item} {s : Passes}

/-- The page selected, from power-on. -/
def Passes.page (s : Passes) : UInt8 := pageAfter 0 (accepted s.drv.board.trace)

/-- Every message accepted is stored on the page it is for, exactly if each item is
    executed on a page and results with which its sends start on their pages, or get
    nothing accepted. -/
theorem placed_iff (hrun : (itemMachine client results pins).Run is s) :
    Placed 0 (accepted s.drv.board.trace) ↔
      (itemMachine client results pins).Meets
        (fun s i => StartOnPages s.page (sends i.work i.earInject) s.drv.board.results) is := by
  refine hrun.iff_meets (I := fun s => s.drv.client = some client)
    (P := fun s => Placed 0 (accepted s.drv.board.trace)) rfl
    (fun pre row post he => by simp [itemMachine] at he) fun hc hst => ?_
  obtain rfl := Option.some.inj ((Passes.step_of_client hc).symm.trans hst)
  refine ⟨hc, ?_⟩
  rw [accepted_sentEach, placed_append, placed_attemptsEach_iff (isSend_of_mem_sends _ _)]
  rfl

/-- An initialisation, a suspend and a resume, without failures. -/
theorem placed_steady :
    ∃ s, (itemMachine 0 (Stream'.const 1) fun _ => false).Run
      [⟨.init, false⟩, ⟨.suspend, false⟩, ⟨.resume, false⟩] s ∧
      (Placed 0 (accepted s.drv.board.trace) ↔
        (itemMachine 0 (Stream'.const 1) fun _ => false).Meets
          (fun s i => StartOnPages s.page (sends i.work i.earInject) s.drv.board.results)
          [⟨.init, false⟩, ⟨.suspend, false⟩, ⟨.resume, false⟩]) := by
  obtain ⟨s, hs⟩ := Machine.exists_run (itemMachine 0 (Stream'.const 1) fun _ => false)
    [⟨.init, false⟩, ⟨.suspend, false⟩, ⟨.resume, false⟩] (by decide)
  exact ⟨s, hs, placed_iff hs⟩

/-- A bus on which the first page select, of page `3`, is refused, and everything else
    is accepted. -/
def selectRefused : Stream' ℤ := fun i => if 27 ≤ i ∧ i < 30 then -121 else 1

/-- The first page select is refused: the table for page `3` is stored on page `0`. -/
theorem not_placed :
    ∃ s, (itemMachine 0 selectRefused fun _ => false).Run [⟨.init, false⟩] s ∧
      ¬Placed 0 (accepted s.drv.board.trace) := by
  have hst := Passes.step_of_client (i := ⟨.init, false⟩)
    (s := (itemMachine 0 selectRefused fun _ => false).init) rfl
  refine ⟨_, .step .init hst, fun h => ?_⟩
  rw [accepted_sentEach] at h
  have hstart : StartOnPages 0 initSends selectRefused :=
    (placed_attemptsEach_iff (isSend_of_mem_sends .init false) _).1 h
  exact absurd hstart (by decide +kernel)

end Sounder.Ntp8230
