import DataGateway.Gateway.Action

/-!
# Conversations

A backend seen from the outside: what it has been asked so far, and what it will answer to the next
questions. After the last answer it gives the answer that the question falls back on.
-/

namespace DataGateway

/-- What a backend has been asked, and what it will answer. -/
structure Conversation (Q A : Type) where
  asked : List Q := []
  answers : List A := []

namespace Conversation

variable {Q A : Type}

/-- Records a question that needs no answer. -/
def record (question : Q) : Action (Conversation Q A) Unit :=
  modify fun talk => { talk with asked := talk.asked ++ [question] }

/-- Takes the next answer. -/
def answer (fallback : A) : Action (Conversation Q A) A := do
  let talk ← get
  set { talk with answers := talk.answers.drop 1 }
  return talk.answers.headD fallback

def ask (question : Q) (fallback : A) : Action (Conversation Q A) A := do
  record question
  answer fallback

end Conversation

end DataGateway
