import Larder.Confirmation.Basic
import Larder.Proofs.Json.Records
import Larder.Proofs.Time.Rfc3339
import Larder.Proofs.Uuid

/-!
A confirmation is read back out of the payload that it was written into.
-/

namespace Larder.Confirmation

/-- The identifier has 128 bits, and both instants are of the years that instants are kept for. -/
structure Kept (c : Confirmation) : Prop where
  id : c.id.bits < 1 <<< 128
  expiresAt : c.expiresAt.Kept
  issuedAt : c.issuedAt.Kept

/-- The members of the payload, in the order of the fields. -/
def members (c : Confirmation) : List (String × Json.Value) :=
  [("confirmation_id", .string c.id.text), ("recipient", .string c.recipient),
   ("code", .string c.code),
    ("active", .bool c.active), ("expires_at", .string c.expiresAt.text),
      ("issued_at", .string c.issuedAt.text)]

theorem toValue_eq (c : Confirmation) : c.toValue = .object (Dict.ofList c.members) := rfl

variable {c : Confirmation}

theorem idShape_text (h : c.Kept) : idShape (.string c.id.text) = .ok c.id := by
  unfold idShape
  dsimp only
  rw [Uuid.read?_text h.id]

theorem instantShape_text {t : Instant} (h : t.Kept) : instantShape (.string t.text) = .ok t := by
  unfold instantShape
  dsimp only
  rw [Instant.read?_text h]

/-- Every member is a field, and passes its test. -/
theorem check_members (h : c.Kept) : ∀ m ∈ c.members,
    ∃ field, fields.find? (·.name == m.1) = some field ∧ field.check m.2 = .ok () := by
  unfold members
  simp only [List.forall_mem_cons]
  refine ⟨⟨_, rfl, Json.check_requiredOf (idShape_text h)⟩, ⟨_, rfl, Json.check_requiredOf rfl⟩,
    ⟨_, rfl, Json.check_requiredOf rfl⟩, ⟨_, rfl, Json.check_requiredOf rfl⟩,
    ⟨_, rfl, Json.check_requiredOf (instantShape_text h.expiresAt)⟩,
    ⟨_, rfl, Json.check_requiredOf (instantShape_text h.issuedAt)⟩, fun m hm => by cases hm⟩

theorem get?_members (c : Confirmation) :
    ∀ m ∈ c.members, Dict.get? (Dict.ofList c.members) m.1 = some m.2 := by
  have hnames : (c.members.map Prod.fst).Nodup := by
    show ["confirmation_id", "recipient", "code", "active", "expires_at", "issued_at"].Nodup
    decide
  exact fun m hm => Dict.get?_ofList_of_mem hnames hm

theorem record_members (h : c.Kept) :
    Json.record "struct ConfirmationIssued" fields c.toValue = .ok (Dict.ofList c.members) := by
  rw [toValue_eq]
  refine Json.record_object (Dict.sorted_ofList _)
    (fun m hm => check_members h m (Dict.mem_ofList hm)) fun field hfield => ?_
  have hnames : ∀ field ∈ fields, ∃ m ∈ c.members, m.1 = field.name := by
    simp [fields, members, Json.Field.requiredOf]
  obtain ⟨m, hm, hname⟩ := hnames field hfield
  exact Dict.contains_iff.2 ⟨m.2, hname ▸ get?_members c m hm⟩

/-- What was written into a payload is read out of it. -/
theorem shape_toValue (h : c.Kept) : shape c.toValue = .ok c := by
  have hmember : ∀ {α : Type} {name : String} {v : Json.Value} {shape : Json.Shape α} {x : α},
      (name, v) ∈ c.members → shape v = .ok x →
      Json.member (Dict.ofList c.members) name shape = .ok x :=
    fun hm hshape => Json.member_eq (get?_members c _ hm) hshape
  have hid : Json.member (Dict.ofList c.members) "confirmation_id" idShape = .ok c.id :=
    hmember (by simp [members]) (idShape_text h)
  have hrecipient : Json.member (Dict.ofList c.members) "recipient" Json.Shape.string
      = .ok c.recipient :=
    hmember (v := .string c.recipient) (by simp [members]) rfl
  have hcode : Json.member (Dict.ofList c.members) "code" Json.Shape.string = .ok c.code :=
    hmember (v := .string c.code) (by simp [members]) rfl
  have hactive : Json.member (Dict.ofList c.members) "active" Json.Shape.bool = .ok c.active :=
    hmember (v := .bool c.active) (by simp [members]) rfl
  have hexpires : Json.member (Dict.ofList c.members) "expires_at" instantShape = .ok c.expiresAt :=
    hmember (by simp [members]) (instantShape_text h.expiresAt)
  have hissued : Json.member (Dict.ofList c.members) "issued_at" instantShape = .ok c.issuedAt :=
    hmember (by simp [members]) (instantShape_text h.issuedAt)
  unfold shape
  rw [record_members h]
  show (Json.member (Dict.ofList c.members) "confirmation_id" idShape >>= _) = _
  rw [hid, hrecipient, hcode, hactive, hexpires, hissued]
  rfl

end Larder.Confirmation
