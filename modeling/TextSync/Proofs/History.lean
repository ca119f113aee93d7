import TextSync.History
import TextSync.Proofs.Edit.Between

/-!
# Histories that lead somewhere

`Leads base changes text` says step by step what a good history is: every change was made to the
text that the earlier ones lead to, and an edit from here is the one between the texts before and
after it. Such a history replays without a fault (`Leads.replay`), and so does each of its
beginnings (`Leads.split`).
-/

namespace TextSync

namespace Edit

theorem applyEach_of_ok {e : Edit} {text next : Text} (rest : List Edit)
    (applied : e.apply text = .ok next) : applyEach (e :: rest) text = applyEach rest next := by
  simp only [applyEach, applied]

theorem applyEach_append (first second : List Edit) (text : Text) :
    applyEach (first ++ second) text = applyEach first text >>= applyEach second := by
  induction first generalizing text with
  | nil => rfl
  | cons e rest ih =>
    simp only [List.cons_append, applyEach]
    split
    · exact ih _
    · rfl

/-- Of edits that can all be made, the first can be made, and the others to what it leads to. -/
theorem applyEach_cons_eq_ok {e : Edit} {rest : List Edit} {text result : Text}
    (fits : applyEach (e :: rest) text = .ok result) :
    ∃ next, e.apply text = .ok next ∧ applyEach rest next = .ok result := by
  cases applied : e.apply text with
  | error fault => simp [applyEach, applied] at fits
  | ok next => exact ⟨next, rfl, applyEach_of_ok rest applied ▸ fits⟩

/-- Edits that can all be made pass through the text between two parts of them. -/
theorem applyEach_append_eq_ok {first second : List Edit} {text result : Text}
    (fits : applyEach (first ++ second) text = .ok result) :
    ∃ between, applyEach first text = .ok between ∧ applyEach second between = .ok result := by
  rw [applyEach_append] at fits
  cases reached : applyEach first text with
  | error fault =>
    rw [reached] at fits
    cases fits
  | ok between =>
    rw [reached] at fits
    exact ⟨between, rfl, fits⟩

end Edit

namespace History

/-- The edits from one side, in the order in which they were made. -/
def editsFrom (origin : Origin) (h : History) : List Edit :=
  ((h.changes.filter (·.origin = origin)).map (·.edit)).reverse

@[simp] theorem editsFrom_start (origin : Origin) (base : Text) :
    (start base).editsFrom origin = [] := rfl

theorem editsFrom_record_same (origin : Origin) (e : Edit) (h : History) :
    (h.record origin e).editsFrom origin = h.editsFrom origin ++ [e] := by
  simp [editsFrom, record]

theorem editsFrom_record_other {origin other : Origin} (differ : other ≠ origin) (e : Edit)
    (h : History) : (h.record other e).editsFrom origin = h.editsFrom origin := by
  simp [editsFrom, record, differ]

/-- The changes, the latest first, lead from one text to another. -/
inductive Leads (base : Text) : List Change → Text → Prop
  | start : Leads base [] base
  | here {changes : List Change} {before after : Text} {e : Edit}
      (far : Leads base changes before) (found : Edit.between before after = some e) :
      Leads base (⟨.here, e⟩ :: changes) after
  | there {changes : List Change} {before after : Text} {e : Edit}
      (far : Leads base changes before) (applied : e.apply before = .ok after) :
      Leads base (⟨.there, e⟩ :: changes) after

namespace Leads

variable {base text : Text} {changes earlier later : List Change} {c : Change}

/-- The latest change of a history and the text it was made to. -/
theorem cases_cons (leads : Leads base (c :: changes) text) :
    ∃ before, Leads base changes before ∧ c.edit.apply before = .ok text ∧
      (c.origin = .here → Edit.between before text = some c.edit) := by
  cases leads with
  | here far found => exact ⟨_, far, Edit.apply_between found, fun _ => found⟩
  | there far applied => exact ⟨_, far, applied, fun same => nomatch same⟩

/-- Any change of a history and the text it was made to. -/
theorem split (leads : Leads base (later ++ c :: earlier) text) :
    ∃ before after, Leads base earlier before ∧ c.edit.apply before = .ok after ∧
      (c.origin = .here → Edit.between before after = some c.edit) := by
  induction later generalizing text with
  | nil =>
    obtain ⟨before, far, applied, own⟩ := leads.cases_cons
    exact ⟨before, text, far, applied, own⟩
  | cons last rest ih =>
    obtain ⟨before, far, -, -⟩ := leads.cases_cons
    exact ih far

/-- A history that leads to a text replays to it. -/
theorem replay (leads : Leads base changes text) : (History.mk base changes).replay = .ok text := by
  induction changes generalizing text with
  | nil =>
    cases leads
    rfl
  | cons c rest ih =>
    obtain ⟨before, far, applied, -⟩ := leads.cases_cons
    have latest : (History.mk base (c :: rest)).edits = (History.mk base rest).edits ++ [c.edit] := by
      simp [edits]
    have reached : Edit.applyEach (History.mk base rest).edits base = .ok before := ih far
    rw [History.replay, latest, Edit.applyEach_append, reached]
    show Edit.applyEach [c.edit] before = .ok text
    simp only [Edit.applyEach, applied]

end Leads
end History
end TextSync
