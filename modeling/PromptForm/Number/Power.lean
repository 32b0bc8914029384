/-!
# Powers

Powers of two bound the integers that texts and settings may hold; powers of ten place decimal points.
-/

namespace PromptForm.Number

def twoTo (n : Nat) : Nat := Nat.pow 2 n

def tenTo (n : Nat) : Nat := Nat.pow 10 n

end PromptForm.Number
