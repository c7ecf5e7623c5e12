import Larder.Criteria.Shape
import Larder.Proofs.Cache.ReadKey
import Larder.Proofs.Json.Records
import Larder.Proofs.Json.TooDeep

/-!
Criteria that are read back from what they are written as.

Each part of criteria is written in one way, and read back from that (`shape_of_parts`), whatever
the order in which the parts stand: the value is kept in the order of the names, the text in the
order of the parts.  What is read of a value may have been written in other ways, with empty parts,
members that are no parts, or as an array, but its conditions stand in the value as they are written
again (`of_shape`).
-/

namespace Larder

open Json (Value Shape bind_eq_ok_iff)

/-! ## Parts -/

theorem Json.Value.WellFormed.child {v w : Value} (h : v.WellFormed) (hw : w ∈ v.children) :
    w.WellFormed := by
  cases v with
  | array items => exact Value.wellFormedItems_iff.1 h w hw
  | object members =>
    obtain ⟨m, hm, rfl⟩ := List.mem_map.1 hw
    exact Value.wellFormedMembers_iff.1 h.2 m hm
  | _ => cases hw

theorem Json.Value.Readable.child {n : Nat} {v w : Value} (h : v.Readable n) (hw : w ∈ v.children) :
    w.Readable (n - 1) := by
  cases v with
  | array items => exact (Value.readable_array_iff.1 h).2 w hw
  | object members =>
    obtain ⟨m, hm, rfl⟩ := List.mem_map.1 hw
    exact (Value.readable_object_iff.1 h).2.2 m hm
  | _ => cases hw

theorem Json.Shape.list_value_ok_iff {v : Value} {vs : List Value} :
    Json.Shape.list Json.Shape.value v = .ok vs ↔ v = .array vs := by
  cases v with
  | array items =>
    refine Json.mapM_eq_ok_iff.trans ?_
    have hsame : (fun a b : Value => Json.Shape.value a = .ok b) = Eq := by
      funext a b
      exact propext ⟨Except.ok.inj, congrArg Except.ok⟩
    rw [hsame, List.forall₂_eq_eq_eq, Value.array.injEq]
  | _ => exact ⟨fun h => (by cases h), fun h => (by cases h)⟩

namespace Filter

theorem shape_toValue (f : Filter) : shape f.toValue = .ok f := by
  cases f with
  | eq v => rfl
  | oneOf candidates =>
    show (Json.Shape.list Json.Shape.value (.array candidates) >>= fun vs => pure (oneOf vs)) = _
    rw [Json.Shape.list_value_ok_iff.2 rfl]
    rfl

theorem shape_member (name : String) (v : Value) :
    shape (.object [(name, v)]) = if name = "eq" then .ok (.eq v)
      else if name = "in" then (Json.Shape.list Json.Shape.value v).map oneOf
      else .error (.unknownName name ["eq", "in"]) := by
  show (if name = "eq" then _
    else if name = "in" then (Json.Shape.list Json.Shape.value v >>= fun vs => pure (oneOf vs))
      else _) = _
  cases Json.Shape.list Json.Shape.value v <;> rfl

theorem shape_string (s : String) (f : Filter) : shape (.string s) ≠ .ok f := by
  show (if s = "eq" then _ else if s = "in" then _ else _) ≠ _
  split
  · exact fun h => by cases h
  · split
    · exact fun h => by cases h
    · exact fun h => by cases h

/-- A condition is written in one way only. -/
theorem eq_toValue_of_shape {v : Value} {f : Filter} (h : shape v = .ok f) : v = f.toValue := by
  match v, h with
  | .object [(name, inner)], h =>
    rw [shape_member] at h
    split at h
    · next heq => rw [heq, ← Except.ok.inj h, toValue]
    · split at h
      · next hin =>
        cases hread : Json.Shape.list Json.Shape.value inner with
        | error m =>
          rw [hread] at h
          cases h
        | ok vs =>
          rw [hread] at h
          rw [hin, Json.Shape.list_value_ok_iff.1 hread, ← Except.ok.inj h, toValue]
      · cases h
  | .string s, h => exact absurd h (shape_string s f)
  | .null, h | .bool _, h | .number _, h | .array _, h | .object [], h
  | .object (_ :: _ :: _), h => cases h

end Filter

theorem Direction.shape_name (d : Direction) : Direction.shape (.string d.name) = .ok d := by
  cases d <;> rfl

namespace Criteria

variable {c : Criteria}

theorem orderShape_orderValue (c : Criteria) : orderShape c.orderValue = .ok c.order := by
  refine Json.mapM_eq_ok_iff.2 ?_
  rw [List.forall₂_map_left_iff]
  refine List.forall₂_same.2 fun clause _ => ?_
  show (Direction.shape (.string clause.2.name) >>= fun d => pure (clause.1, d)) = _
  rw [Direction.shape_name]
  rfl

theorem boundShape_integer (n : Int) : boundShape (.number (.integer n)) =
    if 0 ≤ n ∧ n ≤ ((1 <<< 64 : Nat) - 1) then .ok (some n.toNat)
      else .error (.integerOutOfRange n "u64") := by
  show ((if 0 ≤ n ∧ n ≤ ((1 <<< 64 : Nat) - 1) then Except.ok n else _).map Int.toNat).map some = _
  split <;> rfl

theorem boundShape_ofNat {n : Nat} (hn : n < 1 <<< 64) :
    boundShape (Value.ofNat n) = .ok (some n) := by
  rw [Value.ofNat, boundShape_integer, if_pos (by omega)]
  rfl

theorem bound_lt {v : Value} {n : Nat} (h : boundShape v = .ok (some n)) : n < 1 <<< 64 := by
  match v, h with
  | .number (.integer m), h =>
    rw [boundShape_integer] at h
    split at h
    · have htoNat : m.toNat = n := Option.some.inj (Except.ok.inj h)
      omega
    · cases h
  | .null, h | .bool _, h | .number (.float _), h | .string _, h | .array _, h
  | .object _, h => cases h

/-! ### Conditions -/

/-- A condition with its field, as it stands among the conditions. -/
def conditionValue (entry : String × Filter) : String × Value := (entry.1, entry.2.toValue)

def readCondition (m : String × Value) : Except Json.Mismatch (String × Filter) :=
  (Filter.shape m.2).map (m.1, ·)

theorem sorted_whereValue_iff (filters : Dict String Filter) :
    Dict.Sorted (filters.map conditionValue) ↔ Dict.Sorted filters := List.pairwise_map

theorem readCondition_ok_iff {m : String × Value} {entry : String × Filter} :
    readCondition m = .ok entry ↔ m = conditionValue entry := by
  obtain ⟨name, v⟩ := m
  obtain ⟨field, f⟩ := entry
  unfold readCondition
  constructor
  · intro h
    cases hread : Filter.shape v with
    | error e =>
      rw [hread] at h
      cases h
    | ok f' =>
      rw [hread] at h
      obtain ⟨rfl, rfl⟩ := Prod.mk.inj (Except.ok.inj h)
      rw [conditionValue, Filter.eq_toValue_of_shape hread]
  · intro h
    obtain ⟨rfl, rfl⟩ := Prod.mk.inj h
    rw [Filter.shape_toValue]
    rfl

theorem readConditions_ok_iff {members : List (String × Value)} {filters : List (String × Filter)} :
    members.mapM readCondition = .ok filters ↔ members = filters.map conditionValue := by
  have hread : (fun m entry => readCondition m = .ok entry) = fun m entry => m
      = conditionValue entry := by
    funext m entry
    exact propext readCondition_ok_iff
  rw [Json.mapM_eq_ok_iff, hread, ← List.forall₂_map_right_iff, List.forall₂_eq_eq_eq]

theorem whereShape_ok_iff {members : List (String × Value)} {filters : Dict String Filter} :
    Json.Shape.dict Filter.shape (.object members) = .ok filters ↔
      ∃ read, members = read.map conditionValue ∧ Dict.ofList read = filters := by
  show (members.mapM readCondition >>= fun read => pure (Dict.ofList read)) = _ ↔ _
  rw [bind_eq_ok_iff]
  simp only [readConditions_ok_iff]
  exact exists_congr fun read => and_congr_right fun _ => ⟨Except.ok.inj, congrArg Except.ok⟩

theorem whereShape_whereValue (hsorted : Dict.Sorted c.filters) :
    Json.Shape.dict Filter.shape c.whereValue = .ok c.filters :=
  whereShape_ok_iff.2 ⟨c.filters, rfl, hsorted.ofList_eq⟩

/-- Conditions are written in one way only. -/
theorem eq_whereValue_of_shape {v : Value} (hv : v.WellFormed)
    (h : Json.Shape.dict Filter.shape v = .ok c.filters) :
    v = c.whereValue := by
  cases v with
  | object members =>
    obtain ⟨read, rfl, hfilters⟩ := whereShape_ok_iff.1 h
    -- The fields ascend already, so nothing is moved or replaced on the way into the map.
    have hsorted : Dict.Sorted read := (sorted_whereValue_iff read).1 hv.1
    rw [hsorted.ofList_eq] at hfilters
    rw [hfilters]
    rfl
  | _ => cases h

/-! ### Records -/

/-- The criteria of the program: conditions on ascending fields with values that are canonical, and
bounds of 64 bits. -/
structure Proper (c : Criteria) : Prop where
  conditions : c.whereValue.WellFormed
  limit : ∀ n, c.limit = some n → n < 1 <<< 64
  offset : ∀ n, c.offset = some n → n < 1 <<< 64

theorem Proper.sorted (h : c.Proper) : Dict.Sorted c.filters :=
  (sorted_whereValue_iff c.filters).1 h.conditions.1

/-- Criteria are read part by part. -/
theorem shape_ok_iff {j : Value} : shape j = .ok c ↔
    ∃ members, Json.record "struct Criteria" parts j = .ok members ∧
    Json.memberOr members "where" (Json.Shape.dict Filter.shape) [] = .ok c.filters ∧
    Json.memberOr members "order" orderShape [] = .ok c.order ∧
    Json.memberOr members "limit" boundShape none = .ok c.limit ∧
    Json.memberOr members "offset" boundShape none = .ok c.offset := by
  unfold shape
  simp only [bind_eq_ok_iff]
  constructor
  · rintro ⟨members, hrecord, filters, hfilters, order, horder, limit, hlimit, offset, hoffset, hc⟩
    rw [← Except.ok.inj hc]
    exact ⟨members, hrecord, hfilters, horder, hlimit, hoffset⟩
  · rintro ⟨members, hrecord, hfilters, horder, hlimit, hoffset⟩
    exact ⟨members, hrecord, _, hfilters, _, horder, _, hlimit, _, hoffset, rfl⟩

theorem bound_of_memberOr {members : Dict String Value} {name : String} {bound : Option Nat}
    (h : Json.memberOr members name boundShape none = .ok bound) : ∀ n, bound = some n →
    n < 1 <<< 64 := by
  rintro n rfl
  rcases Json.memberOr_ok h with hnone | ⟨v, -, hv⟩
  · cases hnone
  · exact bound_lt hv

/-- What is read is proper, and its conditions stand in the value. -/
theorem of_shape {j : Value} (hj : j.WellFormed) (h : shape j = .ok c) :
    c.Proper ∧ (c.filters = [] ∨ c.whereValue ∈ j.children) := by
  obtain ⟨members, hrecord, hfilters, -, hlimit, hoffset⟩ := shape_ok_iff.1 h
  have hwhere : c.filters = [] ∨ c.whereValue ∈ j.children := by
    refine (Json.memberOr_ok hfilters).imp_right ?_
    rintro ⟨v, hmem, hv⟩
    have hchild := Json.record_ok hrecord _ hmem
    exact eq_whereValue_of_shape (hj.child hchild) hv ▸ hchild
  have hconditions : c.whereValue.WellFormed := by
    rcases hwhere with hnone | hchild
    · rw [whereValue, hnone]
      exact ⟨Dict.sorted_nil, trivial⟩
    · exact hj.child hchild
  exact ⟨⟨hconditions, bound_of_memberOr hlimit, bound_of_memberOr hoffset⟩, hwhere⟩

/-! ### Writing and reading -/

theorem mem_written_iff {m : String × Value} : m ∈ c.written ↔
    (c.filters ≠ [] ∧ m = ("where", c.whereValue)) ∨ (c.order ≠ [] ∧ m = ("order", c.orderValue)) ∨
      (∃ n, c.limit = some n ∧ m = ("limit", Value.ofNat n)) ∨ ∃ n, c.offset = some n ∧
      m = ("offset", Value.ofNat n) := by
  unfold written
  cases c.filters <;> cases c.order <;> cases c.limit <;> cases c.offset <;> simp

/-- Whether a part of the criteria is not empty. -/
def hasPart (c : Criteria) : String → Bool
  | "where" => !c.filters.isEmpty
  | "order" => !c.order.isEmpty
  | "limit" => c.limit.isSome
  | "offset" => c.offset.isSome
  | _ => false

theorem names_written (c : Criteria) :
    c.written.map Prod.fst = ["where", "order", "limit", "offset"].filter c.hasPart := by
  unfold written
  simp only [List.filter_cons, hasPart]
  cases c.filters <;> cases c.order <;> cases c.limit <;> cases c.offset <;> rfl

theorem nodup_written (c : Criteria) : (c.written.map Prod.fst).Nodup := by
  rw [names_written]
  exact List.Nodup.filter _ (by decide)

theorem check_written (hc : c.Proper) {m : String × Value} (hm : m ∈ c.written) :
    ∃ field, parts.find? (·.name == m.1) = some field ∧ field.check m.2 = .ok () := by
  rcases mem_written_iff.1 hm with ⟨-, rfl⟩ | ⟨-, rfl⟩ | ⟨n, hn, rfl⟩ | ⟨n, hn, rfl⟩
  · exact ⟨_, rfl, Json.check_optionalOf (whereShape_whereValue hc.sorted)⟩
  · exact ⟨_, rfl, Json.check_optionalOf (orderShape_orderValue c)⟩
  · exact ⟨_, rfl, Json.check_optionalOf (boundShape_ofNat (hc.limit n hn))⟩
  · exact ⟨_, rfl, Json.check_optionalOf (boundShape_ofNat (hc.offset n hn))⟩

theorem mem_where_iff {v : Value} : ("where", v) ∈ c.written ↔
    c.filters ≠ [] ∧ v = c.whereValue := by
  simp [mem_written_iff]

theorem mem_order_iff {v : Value} : ("order", v) ∈ c.written ↔ c.order ≠ [] ∧ v = c.orderValue := by
  simp [mem_written_iff]

theorem mem_limit_iff {v : Value} : ("limit", v) ∈ c.written ↔
    ∃ n, c.limit = some n ∧ v = Value.ofNat n := by
  simp [mem_written_iff]

theorem mem_offset_iff {v : Value} : ("offset", v) ∈ c.written ↔
    ∃ n, c.offset = some n ∧ v = Value.ofNat n := by
  simp [mem_written_iff]

section Parts

variable {members : Dict String Value} (hnodup : (members.map Prod.fst).Nodup)
  (hmem : ∀ m, m ∈ members ↔ m ∈ c.written)
include hnodup hmem

theorem get?_written_iff {name : String} {v : Value} :
    Dict.get? members name = some v ↔ (name, v) ∈ c.written := by
  rw [← hmem]
  exact ⟨Dict.mem_of_get?, fun h => Dict.get?_of_mem hnodup h⟩

theorem memberOr_written {α : Type} {name : String} {shape : Shape α} {absent x : α}
    (hvalue : ∀ v, (name, v) ∈ c.written → shape v = .ok x)
    (habsent : (∀ v, (name, v) ∉ c.written) → x = absent) :
    Json.memberOr members name shape absent = .ok x := by
  refine Json.memberOr_eq (fun v hv => hvalue v ((get?_written_iff hnodup hmem).1 hv)) fun hnone =>
    habsent fun v hv => ?_
  rw [(get?_written_iff hnodup hmem).2 hv] at hnone
  cases hnone

theorem boundOr_written {name : String} {bound : Option Nat}
    (hlt : ∀ n, bound = some n → n < 1 <<< 64)
    (hname : ∀ v, (name, v) ∈ c.written ↔ ∃ n, bound = some n ∧ v = Value.ofNat n) :
    Json.memberOr members name boundShape none = .ok bound := by
  refine memberOr_written hnodup hmem (fun v hv => ?_) fun hnone => ?_
  · obtain ⟨n, hn, rfl⟩ := (hname v).1 hv
    rw [hn]
    exact boundShape_ofNat (hlt n hn)
  · rw [Option.eq_none_iff_forall_ne_some]
    exact fun n hn => hnone _ ((hname _).2 ⟨n, hn, rfl⟩)

/-- Members that are the parts of criteria, in any order, are read as the criteria. -/
theorem shape_of_parts (hc : c.Proper) : shape (.object members) = .ok c := by
  refine shape_ok_iff.2
    ⟨members, ?_, ?_, ?_, boundOr_written hnodup hmem hc.limit fun v => mem_limit_iff,
    boundOr_written hnodup hmem hc.offset fun v => mem_offset_iff⟩
  · refine Json.record_of_members hnodup (fun m hm => check_written hc ((hmem m).1 hm))
      fun field hfield hrequired => ?_
    have hoptional : ∀ field ∈ parts, field.required = false := by
      simp [parts, Json.Field.optionalOf]
    rw [hoptional field hfield] at hrequired
    cases hrequired
  · refine memberOr_written hnodup hmem (fun v hv => ?_) fun hnone => ?_
    · rw [(mem_where_iff.1 hv).2]
      exact whereShape_whereValue hc.sorted
    · by_contra hne
      exact hnone _ (mem_where_iff.2 ⟨hne, rfl⟩)
  · refine memberOr_written hnodup hmem (fun v hv => ?_) fun hnone => ?_
    · rw [(mem_order_iff.1 hv).2]
      exact orderShape_orderValue c
    · by_contra hne
      exact hnone _ (mem_order_iff.2 ⟨hne, rfl⟩)

end Parts

theorem readable_orderValue (c : Criteria) : c.orderValue.Readable 2 := by
  refine Value.readable_array_iff.2 ⟨by decide, fun v hv => ?_⟩
  obtain ⟨clause, -, rfl⟩ := List.mem_map.1 hv
  refine Value.readable_array_iff.2 ⟨by decide, fun w hw => ?_⟩
  have hstring : ∃ s, w = .string s := by
    simp only [List.mem_cons, List.not_mem_nil, or_false] at hw
    rcases hw with rfl | rfl
    · exact ⟨_, rfl⟩
    · exact ⟨_, rfl⟩
  obtain ⟨s, rfl⟩ := hstring
  exact ⟨trivial, trivial, Nat.le_refl _⟩

/-- Parts of proper criteria are canonical. -/
theorem Proper.wellFormed_part (hc : c.Proper) {m : String × Value} (hm : m ∈ c.written) :
    m.2.WellFormed := by
  have hbound : ∀ n, n < 1 <<< 64 → (Value.ofNat n).WellFormed := by
    intro n hn
    show -((1 <<< 63 : Nat) : Int) ≤ n ∧ (n : Int) < (1 <<< 64 : Nat)
    omega
  rcases mem_written_iff.1 hm with ⟨-, rfl⟩ | ⟨-, rfl⟩ | ⟨n, hn, rfl⟩ | ⟨n, hn, rfl⟩
  · exact hc.conditions
  · exact (readable_orderValue c).wellFormed
  · exact hbound n (hc.limit n hn)
  · exact hbound n (hc.offset n hn)

theorem canonical_toValue (hc : c.Proper) :
    c.toValue.canonical = .object (Dict.ofList c.written) := by
  rw [toValue_eq, Value.canonical,
    Json.canonicalMembers_eq fun m hm => Json.canonical_of_wellFormed (hc.wellFormed_part hm)]

/-- The criteria are read back from the value that they are written as. -/
theorem shape_canonical_toValue (hc : c.Proper) : shape c.toValue.canonical = .ok c := by
  rw [canonical_toValue hc]
  have hsorted := Dict.sorted_ofList c.written
  refine shape_of_parts (Dict.nodup_of_ascending (List.pairwise_map.2 hsorted))
    (fun m => ⟨Dict.mem_ofList, fun hm => ?_⟩) hc
  exact Dict.mem_of_get? (Dict.get?_ofList_of_mem c.nodup_written hm)

/-! ### Text -/

/-- Conditions with canonical values are not changed by making them canonical. -/
theorem canonical_eq (hc : c.Proper) : c.canonical = c := by
  unfold canonical
  rw [Dict.mapValues_eq_self]
  rintro ⟨field, f⟩ hentry
  have hformed : f.toValue.WellFormed :=
    Value.wellFormedMembers_iff.1 hc.conditions.2 (conditionValue (field, f))
      (List.mem_map_of_mem hentry)
  cases f with
  | eq v => exact congrArg Filter.eq (Json.canonical_of_wellFormed hformed.2.1)
  | oneOf vs =>
    have hvs := Value.wellFormedItems_iff.1 hformed.2.1
    have hmap : vs.map Value.canonical = vs :=
      (List.map_congr_left fun v hv => Json.canonical_of_wellFormed (hvs v hv)).trans
        (List.map_id vs)
    exact congrArg Filter.oneOf hmap

/-- Proper criteria are read back from their text unless it is nested too deep. -/
theorem read?_describe (hc : c.Proper) (hfloats : c.toValue.FloatsReadBack) :
    read? c.describe = if c.toValue.depth < Json.depthLimit then some c else none := by
  have hraw : Json.readRaw? c.describe
      = if c.toValue.depth < Json.depthLimit then some c.toValue else none :=
    Json.readRaw?_object_text (fun m hm => hc.wellFormed_part hm)
      (Value.floatsReadBackMembers_iff.1 hfloats)
  have hshape : shape c.toValue = .ok c := shape_of_parts c.nodup_written (fun _ => Iff.rfl) hc
  unfold read?
  rw [hraw]
  by_cases hdepth : c.toValue.depth < Json.depthLimit
  · rw [if_pos hdepth, if_pos hdepth, Option.bind_eq_bind, Option.bind_some, hshape]
    dsimp only
    rw [canonical_eq hc]
  · rw [if_neg hdepth, if_neg hdepth]
    rfl

/-- Criteria that are read from a value that can be read back can be read back themselves. -/
theorem readable_part {j : Value} (hj : j.Readable (Json.depthLimit - 1)) (h : shape j = .ok c)
    {m : String × Value} (hm : m ∈ c.written) : m.2.Readable (Json.depthLimit - 2) := by
  obtain ⟨hc, hwhere⟩ := of_shape hj.wellFormed h
  have hformed := hc.wellFormed_part hm
  rcases mem_written_iff.1 hm with ⟨hne, rfl⟩ | ⟨-, rfl⟩ | ⟨n, -, rfl⟩ | ⟨n, -, rfl⟩
  · exact hj.child (hwhere.resolve_left hne)
  · exact (readable_orderValue c).mono (by decide)
  · exact ⟨hformed, trivial, Nat.zero_le _⟩
  · exact ⟨hformed, trivial, Nat.zero_le _⟩

theorem read?_describe_of_shape {j : Value} (hj : j.Readable (Json.depthLimit - 1))
    (h : shape j = .ok c) :
    read? c.describe = some c := by
  have hparts : ∀ m ∈ c.written, m.2.Readable (Json.depthLimit - 2) := fun m hm =>
    readable_part hj h hm
  have hfloats : c.toValue.FloatsReadBack :=
    Value.floatsReadBackMembers_iff.2 fun m hm => (hparts m hm).floats
  have hdepth : Value.depthMembers c.written ≤ Json.depthLimit - 2 :=
    Value.depthMembers_le_iff.2 fun m hm => (hparts m hm).depth
  have hshallow : c.toValue.depth < Json.depthLimit := by
    show Value.depthMembers c.written + 1 < 128
    have hlimit : Json.depthLimit - 2 = 126 := rfl
    omega
  rw [read?_describe (of_shape hj.wellFormed h).1 hfloats, if_pos hshallow]

/-! ## There and back -/

/-- Criteria are what is read from their value, and from their text if it is not nested too deep. -/
structure ReadsBack (c : Criteria) : Prop where
  value : shape c.toValue.canonical = .ok c
  text : c.toValue.FloatsReadBack → read? c.describe = if c.toValue.depth < Json.depthLimit then
    some c else none

/-- What becomes of a value that is read as criteria. -/
structure Normalized (j : Value) (c : Criteria) : Prop where
  proper : c.Proper
  conditions : c.filters = [] ∨ c.whereValue ∈ j.children
  parts : ∃ members, c.toValue = .object members ∧
    members.map Prod.fst = ["where", "order", "limit", "offset"].filter c.hasPart
  describe_again : (shape c.toValue.canonical).map describe = .ok c.describe
  key_again : ∀ collection,
    (shape c.toValue.canonical).map (Cache.Key.forRead collection)
      = .ok (Cache.Key.forRead collection c)
  text_again : j.FloatsReadBack → j.depth < Json.depthLimit → read? c.describe = some c

/-- Criteria are read back as they were written, and of every value that is read as criteria there
is one written form: the parts that are not empty, in their order.  Written and read again, it has
the same text and the same key. -/
theorem reads_back : (∀ c : Criteria, c.Proper → c.ReadsBack) ∧
    ∀ (j : Value) (c : Criteria), j.WellFormed → shape j = .ok c → Normalized j c := by
  refine ⟨fun c hc => ⟨shape_canonical_toValue hc, read?_describe hc⟩, fun j c hj h => ?_⟩
  obtain ⟨hc, hconditions⟩ := of_shape hj h
  have hagain := shape_canonical_toValue hc
  refine ⟨hc, hconditions, ⟨c.written, rfl, c.names_written⟩, ?_, fun collection => ?_,
    fun hfloats hdepth => ?_⟩
  · rw [hagain]
    rfl
  · rw [hagain]
    rfl
  · exact read?_describe_of_shape ⟨hj, hfloats, Nat.le_sub_one_of_lt hdepth⟩ h

/-- An object with a member that is no part, an empty part and a part that is null, and an array of
all parts. -/
theorem reads_back_from_object_and_array :
    let condition : Value := .object [("eq", .null)]
    let object : Value := .object [("limit", .null), ("order", .array []), ("page", .bool true),
      ("where", .object [("floor", condition)])]
    let array : Value :=
      .array [.object [], .array [.array [.string "floor", .string "desc"]], .null, Value.ofNat 3]
    let c : Criteria := ⟨[("floor", .eq .null)], [], none, none⟩
    let d : Criteria := ⟨[], [("floor", .desc)], none, some 3⟩
    (object.WellFormed ∧ shape object = .ok c ∧ Normalized object c ∧ c.Proper ∧ c.ReadsBack) ∧
      array.WellFormed ∧ shape array = .ok d ∧ Normalized array d ∧ d.Proper ∧ d.ReadsBack := by
  intro condition object array c d
  have hobject : object.WellFormed := by
    refine ⟨by unfold Dict.Sorted; decide, ?_⟩
    simp [condition, Value.WellFormed, Value.WellFormedMembers, Value.WellFormedItems, Dict.Sorted]
  have harray : array.WellFormed := by
    simp [array, Value.ofNat, Value.WellFormed, Value.WellFormedMembers, Value.WellFormedItems,
      Dict.Sorted, Json.Number.InRange]
  have hc : shape object = .ok c := rfl
  have hd : shape array = .ok d := rfl
  have hobject' := reads_back.2 object c hobject hc
  have harray' := reads_back.2 array d harray hd
  exact ⟨⟨hobject, hc, hobject', hobject'.proper, reads_back.1 c hobject'.proper⟩, harray, hd,
    harray', harray'.proper, reads_back.1 d harray'.proper⟩

end Criteria

end Larder
