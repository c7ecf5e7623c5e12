import Larder.Confirmation.Basic
import Larder.Criteria.Shape
import Larder.Settings.Shape

/-!
Types that a stored value is asked for as: the title under which an error names the type, and the
value read as the type and written again.
-/

namespace Larder.Json

structure Target where
  title : String
  read : Value → Except Mismatch Value

namespace Target

/-- The target of a type that can be written. -/
def of {α : Type} (title : String) (shape : Shape α) (write : α → Value) : Target :=
  ⟨title, fun v => (shape v).map write⟩

def text : Target := of "alloc::string::String" Shape.string .string

def u8 : Target := of "u8" (Shape.natural "u8" 8) .ofNat

def u32 : Target := of "u32" (Shape.natural "u32" 32) .ofNat

def u64 : Target := of "u64" (Shape.natural "u64" 64) .ofNat

def i64 : Target := of "i64" (Shape.signed "i64" 64) .ofInt

def double : Target := of "f64" Shape.double fun x => .number (.float x)

def bool : Target := of "bool" Shape.bool .bool

def texts : Target :=
  of "alloc::vec::Vec<alloc::string::String>" (Shape.list Shape.string) fun xs =>
    .array (xs.map .string)

def optionalU32 : Target :=
  of "core::option::Option<u32>" (Shape.optional (Shape.natural "u32" 32)) fun n =>
    match n with
    | some n => .ofNat n
    | none => .null

def u32Map : Target :=
  of "alloc::collections::btree::map::BTreeMap<alloc::string::String, u32>"
    (Shape.dict (Shape.natural "u32" 32)) fun d => .object (Dict.mapValues .ofNat d)

def direction : Target :=
  of "keystone_repository::criteria::Direction" Direction.shape fun d => .string d.name

def criteria : Target :=
  of "keystone_repository::criteria::Criteria" Criteria.shape Criteria.toValue

def cacheSettings : Target :=
  of "keystone_config::app_config::CacheConfig" CacheSettings.shape CacheSettings.toValue

def confirmation : Target :=
  of "keystone_events::confirmation::ConfirmationIssued" Confirmation.shape Confirmation.toValue

def value : Target := of "serde_json::value::Value" Shape.value id

/-- The targets by short names. -/
def known : List (String × Target) :=
  [("string", text), ("u8", u8), ("u32", u32), ("u64", u64), ("i64", i64), ("f64", double),
   ("bool", bool), ("strings", texts), ("opt_u32", optionalU32), ("u32_map", u32Map),
   ("direction", direction), ("criteria", criteria), ("config", cacheSettings),
   ("confirmation", confirmation), ("value", value)]

def named? (name : String) : Option Target := (known.find? (·.1 == name)).map (·.2)

end Target

end Larder.Json
