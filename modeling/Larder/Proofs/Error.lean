import Larder.Error

/-!
What contexts do to an error, one after another.

Contexts are added from the inside out, and no number of them changes what is done about an error.
A free text ends up behind all of them, with the last one first.  What was found in place of a type
ends up before them, in the order in which they came.  An error from elsewhere keeps its text and
all its contexts, and shows the last one only.
-/

namespace Larder.Error

/-! ## One context -/

section OneContext

variable (e : Error) (operation detail : String)

theorem code_withContext : (e.withContext operation detail).code = e.code := by
  cases e <;> rfl

theorem isCacheMiss_withContext : (e.withContext operation detail).isCacheMiss = e.isCacheMiss := by
  cases e <;> rfl

theorem isRetriable_withContext : (e.withContext operation detail).isRetriable = e.isRetriable := by
  cases e <;> rfl

theorem isTypeMismatch_withContext :
    (e.withContext operation detail).isTypeMismatch = e.isTypeMismatch := by
  cases e <;> rfl

end OneContext

/-! ## A chain of contexts -/

structure Context where
  operation : String
  detail : String

def Context.text (c : Context) : String := contextText c.operation c.detail

/-- The error with contexts added in turn. -/
def withContexts (e : Error) (contexts : List Context) : Error :=
  contexts.foldl (fun e c => e.withContext c.operation c.detail) e

/-- What no context changes, a chain of them does not change. -/
theorem withContexts_invariant {α : Type} {f : Error → α}
    (hf : ∀ e operation detail, f (e.withContext operation detail) = f e) (e : Error)
    (contexts : List Context) :
    f (e.withContexts contexts) = f e := by
  induction contexts generalizing e with
  | nil => rfl
  | cons c rest ih =>
    calc f (e.withContexts (c :: rest))
          = f ((e.withContext c.operation c.detail).withContexts rest) := rfl
      _ = f (e.withContext c.operation c.detail) := ih _
      _ = f e := hf e c.operation c.detail

/-! ## All contexts at once -/

/-- What contexts put in front of a text: the last of them first. -/
def leading (contexts : List Context) : String :=
  String.join (contexts.reverse.map fun c => c.text ++ ": ")

/-- What they put behind a text: the first of them first. -/
def trailing (contexts : List Context) : String :=
  String.join (contexts.map fun c => " (" ++ c.text ++ ")")

theorem leading_cons (c : Context) (rest : List Context) :
    leading (c :: rest) = leading rest ++ (c.text ++ ": ") := by
  rw [leading, List.reverse_cons, List.map_append, String.join_append, List.map_singleton,
    String.join_cons, String.join_nil, String.append_empty]
  rfl

theorem trailing_cons (c : Context) (rest : List Context) :
    trailing (c :: rest) = " (" ++ c.text ++ ")" ++ trailing rest := by
  rw [trailing, List.map_cons, String.join_cons]
  rfl

/-- The error with all its contexts. -/
def framed (contexts : List Context) : Error → Error
  | notFound resource key => notFound resource key
  | expired key => expired key
  | typeMismatch expected found => typeMismatch expected (found ++ trailing contexts)
  | invalidCriteria reason => invalidCriteria reason
  | connectivity reason => connectivity (leading contexts ++ reason)
  | database reason => database (leading contexts ++ reason)
  | decode reason => decode (leading contexts ++ reason)
  | cache reason => cache (leading contexts ++ reason)
  | serialization reason => serialization (leading contexts ++ reason)
  | configurationMissing reason => configurationMissing reason
  | configuration reason => configuration reason
  | handlerNotRegistered topic handler => handlerNotRegistered topic handler
  | topicHasNoHandlers topic => topicHasNoHandlers topic
  | internal reason => internal (leading contexts ++ reason)
  | other reason before => other reason ((contexts.map Context.text).reverse ++ before)

theorem framed_nil (e : Error) : e.framed [] = e := by
  cases e with
  | connectivity reason | database reason | decode reason | cache reason | serialization reason
  | internal reason =>
    exact congrArg _ String.empty_append
  | typeMismatch expected found => exact congrArg _ String.append_empty
  | _ => rfl

/-- The contexts that come later go around the first one. -/
theorem framed_cons (e : Error) (c : Context) (rest : List Context) :
    (e.withContext c.operation c.detail).framed rest = e.framed (c :: rest) := by
  have hleading (reason : String) :
      leading rest ++ (c.text ++ ": " ++ reason) = leading (c :: rest) ++ reason := by
    rw [leading_cons]
    simp only [String.append_assoc]
  have htrailing (found : String) :
      found ++ " (" ++ c.text ++ ")" ++ trailing rest = found ++ trailing (c :: rest) := by
    rw [trailing_cons]
    simp only [String.append_assoc]
  cases e with
  | connectivity reason | database reason | decode reason | cache reason | serialization reason
  | internal reason =>
    exact congrArg _ (hleading reason)
  | typeMismatch expected found => exact congrArg _ (htrailing found)
  | other reason before =>
    have hbefore : (rest.map Context.text).reverse ++ c.text :: before
        = ((c :: rest).map Context.text).reverse ++ before := by
      rw [List.map_cons, List.reverse_cons, List.append_assoc, List.singleton_append]
    exact congrArg _ hbefore
  | _ => rfl

theorem withContexts_eq (e : Error) (contexts : List Context) :
    e.withContexts contexts = e.framed contexts := by
  induction contexts generalizing e with
  | nil => exact e.framed_nil.symm
  | cons c rest ih => exact (ih _).trans (e.framed_cons c rest)

example : (database "connection reset").withContexts
  [⟨"find_one", "units"⟩, ⟨"health_check", "ping"⟩]
    = database "health_check [ping]: find_one [units]: connection reset" := by decide

/-! ## The texts of an error -/

/-- The texts in an error, those of its contexts among them. -/
def texts : Error → List String
  | notFound resource key => [resource, key]
  | expired key => [key]
  | typeMismatch expected found => [expected, found]
  | invalidCriteria reason => [reason]
  | connectivity reason => [reason]
  | database reason => [reason]
  | decode reason => [reason]
  | cache reason => [reason]
  | serialization reason => [reason]
  | configurationMissing reason => [reason]
  | configuration reason => [reason]
  | handlerNotRegistered topic handler => [topic, handler]
  | topicHasNoHandlers topic => [topic]
  | internal reason => [reason]
  | other reason contexts => reason :: contexts

/-- Whether the error is one from elsewhere. -/
def isOther : Error → Bool
  | other _ _ => true
  | _ => false

theorem isOther_withContext (e : Error) (operation detail : String) :
    (e.withContext operation detail).isOther = e.isOther := by
  cases e <;> rfl

/-- A text is in another one, with nothing between its characters. -/
def OccursIn (s t : String) : Prop := s.toList <:+: t.toList

namespace OccursIn

theorem refl (s : String) : OccursIn s s := List.infix_rfl

theorem trans {s t u : String} (hst : OccursIn s t) (htu : OccursIn t u) : OccursIn s u :=
  List.IsInfix.trans hst htu

theorem append_left {s t : String} (h : OccursIn s t) (u : String) : OccursIn s (u ++ t) := by
  rw [OccursIn, String.toList_append]
  exact List.IsInfix.trans h (List.suffix_append _ _).isInfix

theorem append_right {s t : String} (h : OccursIn s t) (u : String) : OccursIn s (t ++ u) := by
  rw [OccursIn, String.toList_append]
  exact List.IsInfix.trans h (List.prefix_append _ _).isInfix

end OccursIn

/-- An error shows the texts that it is made of, unless it is one from elsewhere. -/
theorem occursIn_message {e : Error} (he : e.isOther = false) {t : String} (ht : t ∈ e.texts) :
    OccursIn t e.message := by
  cases e with
  | notFound resource key =>
    rcases List.mem_cons.1 ht with rfl | ht
    · exact ((((OccursIn.refl _).append_left _).append_right _).append_right _).append_right _
    · obtain rfl := List.mem_singleton.1 ht
      exact ((OccursIn.refl _).append_left _).append_right _
  | expired key =>
    obtain rfl := List.mem_singleton.1 ht
    exact ((OccursIn.refl _).append_left _).append_right _
  | typeMismatch expected found =>
    rcases List.mem_cons.1 ht with rfl | ht
    · exact (((OccursIn.refl _).append_left _).append_right _).append_right _
    · obtain rfl := List.mem_singleton.1 ht
      exact (OccursIn.refl _).append_left _
  | handlerNotRegistered topic handler =>
    rcases List.mem_cons.1 ht with rfl | ht
    · exact ((OccursIn.refl _).append_left _).append_right _
    · obtain rfl := List.mem_singleton.1 ht
      exact ((((OccursIn.refl _).append_left _).append_right _).append_right _).append_right _
  | topicHasNoHandlers topic =>
    obtain rfl := List.mem_singleton.1 ht
    exact ((OccursIn.refl _).append_left _).append_right _
  | other reason contexts => cases he
  | _ =>
    obtain rfl := List.mem_singleton.1 ht
    exact (OccursIn.refl _).append_left _

theorem texts_framed (e : Error) (contexts : List Context) {t : String} (ht : t ∈ e.texts) :
    ∃ u ∈ (e.framed contexts).texts, OccursIn t u := by
  cases e with
  | connectivity reason | database reason | decode reason | cache reason | serialization reason
  | internal reason =>
    obtain rfl := List.mem_singleton.1 ht
    exact ⟨_, List.mem_singleton_self _, (OccursIn.refl _).append_left _⟩
  | typeMismatch expected found =>
    rcases List.mem_cons.1 ht with rfl | ht
    · exact ⟨_, List.mem_cons_self, .refl _⟩
    · obtain rfl := List.mem_singleton.1 ht
      exact ⟨_, List.mem_cons_of_mem _ List.mem_cons_self, (OccursIn.refl _).append_right _⟩
  | other reason before =>
    rcases List.mem_cons.1 ht with rfl | hbefore
    · exact ⟨_, List.mem_cons_self, .refl _⟩
    · exact ⟨t, List.mem_cons_of_mem _ (List.mem_append_right _ hbefore), .refl _⟩
  | _ => exact ⟨t, ht, .refl _⟩

/-! ## What a chain leaves -/

/-- What contexts do to an error.  It stays what it is, and no text of it is lost. -/
structure OnlyAdded (e : Error) (contexts : List Context) : Prop where
  code : (e.withContexts contexts).code = e.code
  isCacheMiss : (e.withContexts contexts).isCacheMiss = e.isCacheMiss
  isRetriable : (e.withContexts contexts).isRetriable = e.isRetriable
  framed : e.withContexts contexts = e.framed contexts
  kept : ∀ t ∈ e.texts, ∃ u ∈ (e.withContexts contexts).texts, OccursIn t u
  shown : e.isOther = false → ∀ t ∈ e.texts, OccursIn t (e.withContexts contexts).message

theorem contexts_only_add (e : Error) (contexts : List Context) : OnlyAdded e contexts := by
  have hframed := e.withContexts_eq contexts
  have hkept : ∀ t ∈ e.texts, ∃ u ∈ (e.withContexts contexts).texts, OccursIn t u := by
    intro t ht
    rw [hframed]
    exact e.texts_framed contexts ht
  refine ⟨withContexts_invariant code_withContext e contexts,
    withContexts_invariant isCacheMiss_withContext e contexts,
    withContexts_invariant isRetriable_withContext e contexts, hframed, hkept, fun he t ht => ?_⟩
  obtain ⟨u, hu, htu⟩ := hkept t ht
  have hother : (e.withContexts contexts).isOther = false :=
    (withContexts_invariant isOther_withContext e contexts).trans he
  exact htu.trans (occursIn_message hother hu)

end Larder.Error
