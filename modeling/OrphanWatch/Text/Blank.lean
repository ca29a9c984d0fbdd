/-!
Blank characters and trimming.

A character is blank when Unicode gives it the `White_Space` property. Trimming takes the blank
characters off both ends and leaves the middle alone.
-/

namespace OrphanWatch.Text

/-- The characters with the Unicode property `White_Space`. -/
def isBlank (c : Char) : Bool :=
  let code := c.toNat
  (9 ≤ code && code ≤ 13) || code == 0x20 || code == 0x85 || code == 0xA0 || code == 0x1680
    || (0x2000 ≤ code && code ≤ 0x200A) || code == 0x2028 || code == 0x2029
    || code == 0x202F || code == 0x205F || code == 0x3000

def dropEndWhile {α : Type} (p : α → Bool) : List α → List α
  | [] => []
  | x :: rest =>
    match dropEndWhile p rest with
    | [] => if p x then [] else [x]
    | kept => x :: kept

def trim (text : List Char) : List Char :=
  dropEndWhile isBlank (text.dropWhile isBlank)

def trimmed (text : String) : String :=
  String.ofList (trim text.toList)

def isBlankText (text : String) : Bool :=
  text.toList.all isBlank

theorem dropEndWhile_cons_of_not {α : Type} {p : α → Bool} {x : α} (h : p x = false)
    (rest : List α) : dropEndWhile p (x :: rest) = x :: dropEndWhile p rest := by
  rw [dropEndWhile]
  cases dropEndWhile p rest <;> simp [h]

theorem dropEndWhile_idem {α : Type} (p : α → Bool) (xs : List α) :
    dropEndWhile p (dropEndWhile p xs) = dropEndWhile p xs := by
  induction xs with
  | nil => rfl
  | cons x rest ih =>
    rw [dropEndWhile]
    cases hrest : dropEndWhile p rest with
    | nil => by_cases hx : p x = true <;> simp [hx, dropEndWhile]
    | cons y kept =>
      rw [hrest] at ih
      simp only
      rw [dropEndWhile, ih]

end OrphanWatch.Text
