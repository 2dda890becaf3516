set_option autoImplicit false

namespace RequestBinding

-- Positions and lengths count characters, so a text is the list of them.
abbrev Text := List Char

namespace Text

def inRanges (ranges : List (Nat × Nat)) (c : Char) : Bool :=
  ranges.any fun range => decide (range.1 ≤ c.toNat) && decide (c.toNat ≤ range.2)

def isNameChar (c : Char) : Bool :=
  c.isAlphanum || c = '_'

def cut? (sep : Char) (t : Text) : Option (Text × Text) :=
  match t.dropWhile (· ≠ sep) with
  | [] => none
  | _ :: after => some (t.takeWhile (· ≠ sep), after)

theorem cut?_cons (sep c : Char) (rest : Text) :
    cut? sep (c :: rest) =
      if c = sep then some ([], rest)
      else (cut? sep rest).map fun parts => (c :: parts.1, parts.2) := by
  by_cases h : c = sep
  · simp [cut?, h]
  · simp only [cut?, List.dropWhile_cons, List.takeWhile_cons, h, if_false, ne_eq,
      not_false_eq_true, decide_true, if_true]
    generalize rest.dropWhile _ = behind
    cases behind <;> rfl

theorem cut?_eq_some_iff {sep : Char} {t before after : Text} :
    cut? sep t = some (before, after) ↔ t = before ++ sep :: after ∧ sep ∉ before := by
  induction t generalizing before with
  | nil => simp [cut?]
  | cons c rest ih =>
    rw [cut?_cons]
    by_cases h : c = sep
    · subst h
      cases before <;> grind
    · cases before with
      | nil => simp [h]
      | cons d before =>
        simp only [h, if_false, Option.map_eq_some_iff, Prod.exists, Prod.mk.injEq, List.cons.injEq]
        grind

def joined (sep : String) (pieces : List Text) : Text :=
  sep.toList.intercalate pieces

def spaces (n : Nat) : Text :=
  List.replicate n ' '

def newline (margin : Nat) : Text :=
  '\n' :: spaces margin

def decimal : Int → Text
  | .ofNat n => Nat.toDigits 10 n
  | .negSucc n => '-' :: Nat.toDigits 10 (n + 1)

-- The characters with the Unicode property White_Space.
def isSpace : Char → Bool :=
  inRanges
    [(0x09, 0x0D), (0x20, 0x20), (0x85, 0x85), (0xA0, 0xA0), (0x1680, 0x1680), (0x2000, 0x200A),
      (0x2028, 0x2029), (0x202F, 0x202F), (0x205F, 0x205F), (0x3000, 0x3000)]

-- The four information separators are blanks too.
def isBlank (c : Char) : Bool :=
  isSpace c || inRanges [(0x1C, 0x1F)] c

def trimWhere (skip : Char → Bool) (t : Text) : Text :=
  ((t.dropWhile skip).reverse.dropWhile skip).reverse

def strip (t : Text) : Text :=
  trimWhere isBlank t

def words (t : Text) : List Text :=
  (t.splitOnP isBlank).filter (!·.isEmpty)

def startsBlank : Text → Bool
  | [] => false
  | c :: _ => isBlank c

-- `returned` says that the character before was a carriage return, written as a newline already.
def unifyNewlinesFrom (returned : Bool) : Text → Text
  | [] => []
  | c :: rest =>
    if c = '\r' then
      '\n' :: unifyNewlinesFrom true rest
    else if c = '\n' && returned then
      unifyNewlinesFrom false rest
    else
      c :: unifyNewlinesFrom false rest

def unifyNewlines (t : Text) : Text :=
  unifyNewlinesFrom false t

-- The mandatory breaks and three information separators.
def isLineBreak : Char → Bool :=
  inRanges [(0x0A, 0x0D), (0x1C, 0x1E), (0x85, 0x85), (0x2028, 0x2029)]

def consFirst (c : Char) : List Text → List Text
  | [] => [[c]]
  | line :: more => (c :: line) :: more

-- What follows the last break is a line only if it is not empty.
def lines : Text → List Text
  | [] => []
  | c :: rest => if isLineBreak c then [] :: lines rest else consFirst c (lines rest)

-- Behind ESC and an opening bracket: parameter bytes, intermediate bytes and one final byte.
def controlBodyLength? (t : Text) : Option Nat :=
  let parameters := t.takeWhile (inRanges [(0x30, 0x3F)])
  let rest := t.dropWhile (inRanges [(0x30, 0x3F)])
  let intermediates := rest.takeWhile (inRanges [(0x20, 0x2F)])
  match rest.dropWhile (inRanges [(0x20, 0x2F)]) with
  | [] => none
  | c :: _ =>
    if inRanges [(0x40, 0x7E)] c then some (parameters.length + intermediates.length + 1) else none

def controlLength? : Text → Option Nat
  | '\x1b' :: '[' :: body => (controlBodyLength? body).map (2 + ·)
  | _ => none

-- `skip` counts the characters still to be dropped from a sequence that has begun.
def removeControlFrom : (skip : Nat) → Text → Text
  | _, [] => []
  | skip + 1, _ :: rest => removeControlFrom skip rest
  | 0, c :: rest =>
    match controlLength? (c :: rest) with
    | some (length + 1) => removeControlFrom length rest
    | _ => c :: removeControlFrom 0 rest

theorem controlLength?_of_ne_escape {c : Char} {rest : Text} (h : c ≠ '\x1b') :
    controlLength? (c :: rest) = none := by
  unfold controlLength?
  split <;> simp_all

def removeControl (t : Text) : Text :=
  removeControlFrom 0 t

theorem removeControl_of_no_escape {t : Text} (h : '\x1b' ∉ t) : removeControl t = t := by
  unfold removeControl
  induction t with
  | nil => rfl
  | cons c rest ih =>
    have hc : c ≠ '\x1b' := fun hc => h (by simp [hc])
    simp [removeControlFrom, controlLength?_of_ne_escape hc, ih fun hr => h (by simp [hr])]

end Text

end RequestBinding
