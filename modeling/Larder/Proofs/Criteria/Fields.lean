import Larder.Criteria.Basic

/-!
Which criteria are refused: those that name a field which is no dotted name.
-/

namespace Larder.Criteria

/-- Letters and digits of ASCII, and the underscore. -/
def IsWordChar (c : Char) : Prop := c.isAlphanum = true ∨ c = '_'

/-- Names with dots between them, one at least, and none of them empty. -/
def IsDotted (field : String) : Prop :=
  ∃ names : List (List Char), names ≠ [] ∧ (∀ name ∈ names, name ≠ [] ∧ ∀ c ∈ name, IsWordChar c) ∧
    field.toList = ['.'].intercalate names

theorem isFieldChar_iff (c : Char) : isFieldChar c = true ↔ IsWordChar c := by
  unfold isFieldChar IsWordChar Char.isAlphanum Char.isAlpha Char.isUpper Char.isLower Char.isDigit
  simp only [Char.le_def, Bool.or_eq_true, Bool.and_eq_true, decide_eq_true_eq, beq_iff_eq]
  rw [or_comm (a := 'a'.val ≤ c.val ∧ c.val ≤ 'z'.val)]

theorem isField_iff (field : String) : isField field = true ↔ IsDotted field := by
  have hname : ∀ name : List Char, (!name.isEmpty && name.all isFieldChar) = true
      ↔ name ≠ [] ∧ ∀ c ∈ name, IsWordChar c := by
    intro name
    simp [isFieldChar_iff]
  constructor
  · intro h
    refine ⟨field.toList.splitOn '.', List.splitOn_ne_nil _ _, fun name hmem => ?_, ?_⟩
    · exact (hname name).1 (List.all_eq_true.1 h name hmem)
    · exact (List.intercalate_splitOn '.').symm
  · rintro ⟨names, hne, hnames, hfield⟩
    have hdots : ∀ name ∈ names, '.' ∉ name := by
      intro name hmem hdot
      have hword := (hnames name hmem).2 '.' hdot
      simp [IsWordChar] at hword
    unfold isField
    rw [hfield, List.splitOn_intercalate '.' hdots hne]
    exact List.all_eq_true.2 fun name hmem => (hname name).2 (hnames name hmem)

theorem checkField_eq (field : String) :
    (isField field = true ∧ checkField field = .ok ()) ∨
      (isField field = false ∧ ∃ reason, checkField field = .error (.invalidCriteria reason)) := by
  unfold checkField
  by_cases h : isField field = true
  · simp [h]
  · simp [h]

theorem checkFields_error {fields : List String} {e : Error} (h : checkFields fields = .error e) :
    ∃ reason, e = .invalidCriteria reason := by
  induction fields with
  | nil => cases h
  | cons field rest ih =>
    unfold checkFields at h
    rcases checkField_eq field with ⟨-, hok⟩ | ⟨-, reason, herror⟩
    · rw [hok] at h
      exact ih h
    · rw [herror] at h
      exact ⟨reason, (Except.error.inj h).symm⟩

theorem checkFields_ok_iff {fields : List String} :
    checkFields fields = .ok () ↔ ∀ field ∈ fields, isField field = true := by
  induction fields with
  | nil => simp [checkFields]
  | cons field rest ih =>
    unfold checkFields
    rw [List.forall_mem_cons, ← ih]
    rcases checkField_eq field with ⟨hfield, hok⟩ | ⟨hfield, reason, herror⟩
    · simp [hok, hfield]
    · simp [herror, hfield]

theorem validate_eq (c : Criteria) :
    (c.validate = .ok () ∧ ∀ field ∈ c.fields, isField field = true) ∨
      ∃ reason, c.validate = .error (.invalidCriteria reason) := by
  cases h : c.validate with
  | ok _ => exact Or.inl ⟨rfl, checkFields_ok_iff.1 h⟩
  | error e =>
    obtain ⟨reason, rfl⟩ := checkFields_error h
    exact Or.inr ⟨reason, rfl⟩

theorem validate_of_not_dotted {c : Criteria} {field : String} (hmem : field ∈ c.fields)
    (h : ¬ IsDotted field) :
    ∃ reason, c.validate = .error (.invalidCriteria reason) := by
  rcases c.validate_eq with ⟨-, hproper⟩ | hrefused
  · exact absurd ((isField_iff field).1 (hproper field hmem)) h
  · exact hrefused

end Larder.Criteria
