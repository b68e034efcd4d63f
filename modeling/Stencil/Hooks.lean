/-
Hooks: a resolver, which is asked for a path before the variables are searched, and a transform,
which is given every text before it is coerced. What a hook answers may depend on what it has been
asked before, and on nothing else; so a hook is a function of its history and its question.
-/

import Stencil.Json.Basic

namespace Stencil

/-- Answers paths ahead of the variables. Given the paths asked for so far and the next one, it
fails with a message, finds a value, or leaves the path to the variables. -/
structure Resolver where
  reply : (history : List Text) → (path : Text) → Except Text (Option Json)

/-- Changes texts before they are coerced. Given the texts it has been given so far and the next
one, it fails with a message or answers another text. -/
structure Transform where
  reply : (history : List Text) → (text : Text) → Except Text Text

end Stencil
