import Larder.Json.Shape
import Larder.Proofs.Dict

/-!
What is read as a record.

Objects that have what a record asks for are read with all their members, in whatever order these
stand, and what is read of any value is taken from what lies in it.
-/

namespace Larder.Json

/-! ## Steps that can fail -/

section Steps

variable {ε α β : Type}

theorem bind_eq_ok_iff {x : Except ε α} {f : α → Except ε β} {b : β} :
    (x >>= f) = .ok b ↔ ∃ a, x = .ok a ∧ f a = .ok b := by
  cases x with
  | error e =>
    constructor
    · intro h
      cases h
    · rintro ⟨a, ha, -⟩
      cases ha
  | ok a =>
    constructor
    · exact fun h => ⟨a, rfl, h⟩
    · rintro ⟨a', ha, h⟩
      rw [Except.ok.inj ha]
      exact h

theorem mapM_eq_ok_iff {f : α → Except ε β} {as : List α} {bs : List β} :
    as.mapM f = .ok bs ↔ List.Forall₂ (fun a b => f a = .ok b) as bs := by
  induction as generalizing bs with
  | nil =>
    rw [List.mapM_nil, List.forall₂_nil_left_iff]
    exact ⟨fun h => (Except.ok.inj h).symm, fun h => h ▸ rfl⟩
  | cons a as ih =>
    simp only [List.mapM_cons, List.forall₂_cons_left_iff, bind_eq_ok_iff, ih]
    constructor
    · rintro ⟨b, hfirst, bs', hrest, hbs⟩
      exact ⟨b, bs', hfirst, hrest, (Except.ok.inj hbs).symm⟩
    · rintro ⟨b, bs', hfirst, hrest, rfl⟩
      exact ⟨b, hfirst, bs', hrest, rfl⟩

end Steps

/-! ## Objects -/

theorem knownMembers_eq {fields : List Field} {members : List (String × Value)}
    (h : ∀ m ∈ members, ∃ field, fields.find? (·.name == m.1) = some field ∧
      field.check m.2 = .ok ()) :
    knownMembers fields members = .ok members := by
  induction members with
  | nil => rfl
  | cons m rest ih =>
    obtain ⟨name, v⟩ := m
    obtain ⟨field, hfind, hcheck⟩ := h (name, v) List.mem_cons_self
    have hrest := ih fun m hm => h m (List.mem_cons_of_mem _ hm)
    rw [knownMembers, hfind]
    dsimp only
    rw [hcheck, hrest]
    rfl

theorem firstRepeated_eq_none {names : List String} (h : names.Nodup) :
    firstRepeated names = none := by
  induction names with
  | nil => rfl
  | cons name rest ih =>
    obtain ⟨hname, hrest⟩ := List.nodup_cons.1 h
    rw [firstRepeated, if_neg fun hmem => hname (List.contains_iff_mem.1 hmem)]
    exact ih hrest

/-- An object is a record if its members are fields and pass their tests, none twice, and no
required field is missing. -/
theorem record_of_members {name : String} {fields : List Field} {members : Dict String Value}
    (hnodup : (members.map Prod.fst).Nodup)
    (hknown : ∀ m ∈ members, ∃ field, fields.find? (·.name == m.1) = some field ∧
      field.check m.2 = .ok ())
    (hall : ∀ field ∈ fields, field.required = true → Dict.contains members field.name = true) :
    record name fields (.object members) = .ok members := by
  have hmissing : fields.find? (fun f => f.required && !(Dict.contains members f.name)) = none := by
    refine List.find?_eq_none.2 fun field hfield hbad => ?_
    obtain ⟨hrequired, habsent⟩ := Bool.and_eq_true_iff.1 hbad
    rw [hall field hfield hrequired] at habsent
    cases habsent
  have hbind : ∀ rest : Dict String Value → Except Mismatch (Dict String Value),
      (knownMembers fields members).bind rest = rest members := by
    intro rest
    rw [knownMembers_eq hknown]
    rfl
  refine (hbind _).trans ?_
  rw [firstRepeated_eq_none hnodup]
  dsimp only
  rw [hmissing]
  rfl

/-- An object is a record if all its members are fields and pass their tests, and no field is
missing. -/
theorem record_object {name : String} {fields : List Field} {members : Dict String Value}
    (hsorted : Dict.Sorted members)
    (hknown : ∀ m ∈ members, ∃ field, fields.find? (·.name == m.1) = some field ∧
      field.check m.2 = .ok ())
    (hall : ∀ field ∈ fields, Dict.contains members field.name = true) :
    record name fields (.object members) = .ok members :=
  record_of_members (Dict.nodup_of_ascending (List.pairwise_map.2 hsorted)) hknown
    fun field hfield _ => hall field hfield

theorem member_eq {α : Type} {members : Dict String Value} {name : String} {shape : Shape α}
    {v : Value} {x : α} (hget : Dict.get? members name = some v) (hshape : shape v = .ok x) :
    member members name shape = .ok x := by
  rw [member, hget]
  exact hshape

theorem check_requiredOf {α : Type} {name : String} {shape : Shape α} {v : Value} {x : α}
    (h : shape v = .ok x) :
    (Field.requiredOf name shape).check v = .ok () := by
  show (shape v).map (fun _ => ()) = .ok ()
  rw [h]
  rfl

theorem check_optionalOf {α : Type} {name : String} {shape : Shape α} {v : Value} {x : α}
    (h : shape v = .ok x) :
    (Field.optionalOf name shape).check v = .ok () := by
  show (shape v).map (fun _ => ()) = .ok ()
  rw [h]
  rfl

section MemberOr

variable {α : Type} {members : Dict String Value} {name : String} {shape : Shape α} {absent x : α}

/-- A field that may be absent is what its value is read as, or else what stands for it. -/
theorem memberOr_eq (hvalue : ∀ v, Dict.get? members name = some v → shape v = .ok x)
    (habsent : Dict.get? members name = none → x = absent) :
    memberOr members name shape absent = .ok x := by
  unfold memberOr
  cases h : Dict.get? members name with
  | none => rw [habsent h]
  | some v => exact hvalue v h

theorem memberOr_ok (h : memberOr members name shape absent = .ok x) :
    x = absent ∨ ∃ v, (name, v) ∈ members ∧ shape v = .ok x := by
  unfold memberOr at h
  cases hget : Dict.get? members name with
  | none =>
    rw [hget] at h
    exact Or.inl (Except.ok.inj h).symm
  | some v =>
    rw [hget] at h
    exact Or.inr ⟨v, Dict.mem_of_get? hget, h⟩

end MemberOr

/-! ## What is read -/

/-- What lies in an array or an object. -/
def Value.children : Value → List Value
  | .array items => items
  | .object members => members.map Prod.snd
  | _ => []

theorem knownMembers_ok {fields : List Field} {members known : List (String × Value)}
    (h : knownMembers fields members = .ok known) : known ⊆ members := by
  induction members generalizing known with
  | nil =>
    obtain rfl := Except.ok.inj h
    exact List.Subset.refl _
  | cons m rest ih =>
    obtain ⟨name, v⟩ := m
    rw [knownMembers] at h
    split at h
    · exact List.subset_cons_of_subset _ (ih h)
    · simp only [bind_eq_ok_iff] at h
      obtain ⟨_, -, others, hrest, hknown⟩ := h
      rw [← Except.ok.inj hknown]
      exact List.cons_subset_cons _ (ih hrest)

theorem positionalMembers_ok {expected : String} {count : Nat} {fields : List Field}
    {items : List Value} {known : List (String × Value)}
    (h : positionalMembers expected count fields items = .ok known) :
    ∀ m ∈ known, m.2 ∈ items := by
  induction fields generalizing count items known with
  | nil =>
    cases items with
    | nil =>
      obtain rfl := Except.ok.inj h
      exact List.forall_mem_nil _
    | cons v rest => cases h
  | cons field fields ih =>
    cases items with
    | nil =>
      rw [positionalMembers] at h
      split at h
      · cases h
      · exact ih h
    | cons v rest =>
      simp only [positionalMembers, bind_eq_ok_iff] at h
      obtain ⟨_, -, others, hrest, hknown⟩ := h
      rw [← Except.ok.inj hknown]
      exact List.forall_mem_cons.2
        ⟨List.mem_cons_self, fun m hm => List.mem_cons_of_mem v (ih hrest m hm)⟩

/-- The fields of a record are taken from what lies in the value. -/
theorem record_ok {name : String} {fields : List Field} {v : Value} {known : Dict String Value}
    (h : record name fields v = .ok known) : ∀ m ∈ known, m.2 ∈ v.children := by
  cases v with
  | object members =>
    simp only [record, bind_eq_ok_iff] at h
    obtain ⟨read, hread, hcomplete⟩ := h
    split at hcomplete
    · cases hcomplete
    · split at hcomplete
      · cases hcomplete
      · rw [← Except.ok.inj hcomplete]
        exact fun m hm => List.mem_map_of_mem (knownMembers_ok hread hm)
  | array items => exact positionalMembers_ok h
  | _ => cases h

end Larder.Json
