/-!
# Texts split at separators

## Main definitions

* `Text.splitWhere` — the stretches between the separators of a text, empty ones included
-/

namespace RpcSchema.Text

/-- The stretches between the characters of a class. A text without any is one stretch. -/
def splitWhere (separates : Char → Bool) : List Char → List (List Char)
  | [] => [[]]
  | c :: rest =>
    if separates c then [] :: splitWhere separates rest
    else
      match splitWhere separates rest with
      | [] => [[c]]
      | stretch :: more => (c :: stretch) :: more

end RpcSchema.Text
