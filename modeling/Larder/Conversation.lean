/-!
Conversations with a server: what is asked, and how it goes on with the response.  A conversation
says nothing of who answers, so it can be held with a server, with a script, or with several clients
between each other's requests.
-/

namespace Larder

inductive Conversation (Request : Type) (Response : Request → Type) (α : Type) where
  | done (result : α)
  | ask (r : Request) (next : Response r → Conversation Request Response α)

namespace Conversation

variable {Request : Type} {Response : Request → Type} {α β : Type}

def bind : Conversation Request Response α → (α → Conversation Request Response β) →
    Conversation Request Response β
  | done a, f => f a
  | ask r next, f => ask r fun response => (next response).bind f

instance : Monad (Conversation Request Response) where
  pure := done
  bind := bind

/-- One request, and its response. -/
def request (r : Request) : Conversation Request Response (Response r) := ask r done

/-- Holds the conversation with someone who answers from a state. -/
def hold {σ : Type} (answer : (r : Request) → StateM σ (Response r)) :
    Conversation Request Response α → StateM σ α
  | done a => fun s => (a, s)
  | ask r next => fun s =>
    let (response, s) := answer r s
    hold answer (next response) s

end Conversation

end Larder
