import Larder.Cache.Key
import Larder.Proofs.Json.Nesting
import Larder.Proofs.Text.Utf8

/-!
The key of a cached answer determines the collection and the criteria.

A key is the name of the collection and the description of the criteria with nothing between them.
A name may hold any characters, so what separates the two is the description: it is never a proper
suffix of another one.
-/

namespace Larder

open Json (Value)

/-! ## Descriptions -/

theorem Filter.toValue_injective {f g : Filter} (h : f.toValue = g.toValue) : f = g := by
  cases f <;> cases g <;> simp_all [toValue]

theorem Direction.name_injective {d e : Direction} (h : d.name = e.name) : d = e := by
  cases d <;> cases e
  · rfl
  · exact absurd h (by decide)
  · exact absurd h (by decide)
  · rfl

namespace Criteria

def written (c : Criteria) : List (String × Value) :=
  (if c.filters.isEmpty then [] else [("where", c.whereValue)])
    ++ (if c.order.isEmpty then [] else [("order", c.orderValue)])
    ++ (match c.limit with | some n => [("limit", Value.ofNat n)] | none => [])
    ++ (match c.offset with | some n => [("offset", Value.ofNat n)] | none => [])

theorem toValue_eq (c : Criteria) : c.toValue = .object c.written := rfl

/-- Each part is found under its name exactly if it is not empty. -/
theorem lookup_written (c : Criteria) :
    c.written.lookup "where" = (if c.filters.isEmpty then none else some c.whereValue) ∧
      c.written.lookup "order" = (if c.order.isEmpty then none else some c.orderValue) ∧
      c.written.lookup "limit" = c.limit.map Value.ofNat ∧
      c.written.lookup "offset" = c.offset.map Value.ofNat := by
  unfold written
  cases c.filters.isEmpty <;> cases c.order.isEmpty <;> cases c.limit <;> cases c.offset <;>
    exact ⟨rfl, rfl, rfl, rfl⟩

theorem letterFirst_written (c : Criteria) : Json.Spot.LetterFirst c.written := by
  intro m hm
  have hname : m.1 ∈ ["where", "order", "limit", "offset"] := by
    revert hm
    unfold written
    cases c.filters.isEmpty <;> cases c.order.isEmpty <;> cases c.limit <;> cases c.offset <;>
      rintro ⟨⟩ <;>
      simp only [List.mem_cons, true_or, or_true]
  have hletter : ∀ name ∈ ["where", "order", "limit", "offset"],
      ∃ ch cs, name.toList = ch :: cs ∧ ch.isAlpha = true := by
    simp
  exact hletter m.1 hname

theorem whereValue_injective {a b : Criteria} (h : a.whereValue = b.whereValue) :
    a.filters = b.filters := by
  unfold whereValue at h
  refine List.map_injective_iff.2 ?_ (Value.object.inj h)
  rintro ⟨k, f⟩ ⟨l, g⟩ hfg
  obtain ⟨rfl, hvalue⟩ := Prod.mk.inj hfg
  rw [Filter.toValue_injective hvalue]

theorem orderValue_injective {a b : Criteria} (h : a.orderValue = b.orderValue) :
    a.order = b.order := by
  unfold orderValue at h
  refine List.map_injective_iff.2 ?_ (Value.array.inj h)
  rintro ⟨k, d⟩ ⟨l, e⟩ hde
  obtain ⟨hfield, hname⟩ := List.cons.inj (Value.array.inj hde)
  obtain rfl := Value.string.inj hfield
  rw [Direction.name_injective (Value.string.inj (List.cons.inj hname).1)]

theorem ofNat_injective {m n : Nat} (h : Value.ofNat m = Value.ofNat n) : m = n :=
  Int.ofNat.inj (Json.Number.integer.inj (Value.number.inj h))

/-- A part that is left out when it is empty is determined by what stands for it. -/
theorem eq_of_part_eq {α β : Type} {a b : List α} {v w : β} (hvalue : v = w → a = b)
    (h : (if a.isEmpty then none else some v) = (if b.isEmpty then none else some w)) : a = b := by
  cases a with
  | nil =>
    cases b with
    | nil => rfl
    | cons => cases h
  | cons =>
    cases b with
    | nil => cases h
    | cons => exact hvalue (Option.some.inj h)

theorem written_injective {a b : Criteria} (h : a.written = b.written) : a = b := by
  obtain ⟨hwhere, horder, hlimit, hoffset⟩ := a.lookup_written
  obtain ⟨hwhere', horder', hlimit', hoffset'⟩ := b.lookup_written
  rw [h, hwhere'] at hwhere
  rw [h, horder'] at horder
  rw [h, hlimit'] at hlimit
  rw [h, hoffset'] at hoffset
  have hfilters : a.filters = b.filters := eq_of_part_eq whereValue_injective hwhere.symm
  have hclauses : a.order = b.order := eq_of_part_eq orderValue_injective horder.symm
  have hnat : Function.Injective Value.ofNat := fun _ _ => ofNat_injective
  have hlim : a.limit = b.limit := Option.map_injective hnat hlimit.symm
  have hoff : a.offset = b.offset := Option.map_injective hnat hoffset.symm
  cases a
  cases b
  simp_all

theorem describe_injective {a b : Criteria} (h : a.describe = b.describe) : a = b := by
  have hvalue : a.toValue = b.toValue := Value.text_injective h
  rw [toValue_eq, toValue_eq] at hvalue
  exact written_injective (Value.object.inj hvalue)

/-- No description is a proper suffix of another one. -/
theorem describe_not_proper_suffix {a b : Criteria} {front : List Char}
    (h : a.describe.toList = front ++ b.describe.toList) : front = [] := by
  unfold describe Value.text at h
  rw [String.toList_ofList, String.toList_ofList, toValue_eq, toValue_eq] at h
  exact Json.Spot.object_not_proper_suffix b.letterFirst_written h

end Criteria

/-! ## Keys -/

namespace Cache.Key

theorem forRead_injective {collection collection' : String} {c c' : Criteria}
    (h : forRead collection c = forRead collection' c') : collection = collection' ∧ c = c' := by
  have hbytes : Utf8.encode (collection ++ c.describe)
      = Utf8.encode (collection' ++ c'.describe) := by
    rw [Utf8.encode_append, Utf8.encode_append]
    simpa [forRead, ofParts] using h
  have hchars : collection.toList ++ c.describe.toList
      = collection'.toList ++ c'.describe.toList := by
    rw [← String.toList_append, ← String.toList_append, Utf8.encode_injective hbytes]
  have hdescribe : collection.toList = collection'.toList ∧
      c.describe.toList = c'.describe.toList := by
    rcases List.append_eq_append_iff.1 hchars
      with ⟨front, hfirst, hsecond⟩ | ⟨front, hfirst, hsecond⟩
    · obtain rfl := Criteria.describe_not_proper_suffix hsecond
      rw [List.append_nil] at hfirst
      rw [List.nil_append] at hsecond
      exact ⟨hfirst.symm, hsecond⟩
    · obtain rfl := Criteria.describe_not_proper_suffix hsecond
      rw [List.append_nil] at hfirst
      rw [List.nil_append] at hsecond
      exact ⟨hfirst, hsecond.symm⟩
  exact ⟨String.toList_inj.1 hdescribe.1,
    Criteria.describe_injective (String.toList_inj.1 hdescribe.2)⟩

/-- Two reads share a key exactly if they ask the same collection with the same criteria. -/
theorem forRead_eq_iff (collection collection' : String) (c c' : Criteria) :
    forRead collection c = forRead collection' c' ↔ collection = collection' ∧ c = c' := by
  constructor
  · exact forRead_injective
  · rintro ⟨rfl, rfl⟩
    rfl

end Cache.Key

end Larder
