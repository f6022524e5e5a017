import Mathlib.Data.List.DropRight
import Mathlib.Data.String.Basic

/-!
# Text operations of the host language

The services compare text after trimming, collapsing white space and changing
case. Trimming, splitting and searching are finite list algorithms and are
executable here. Case conversion reads the runtime's Unicode tables, which are
not part of the repository: it is a parameter, so every result below it holds
for whatever conversion the runtime performs.

Optional text follows the host's truth test: an absent and an empty value are
both false.
-/

namespace FinopsAnalytics.PythonText

/-- Pairs of texts are compared by their parts. -/
instance pairLawfulBEq : LawfulBEq (String × String) := inferInstance

/-- A text and an optional one, as a scope of a listing. -/
instance scopeLawfulBEq : LawfulBEq (String × Option String) := inferInstance

/-- A scope with the identifier of a resource. -/
instance scopedLawfulBEq : LawfulBEq (String × Option String × String) := inferInstance

/-- `str.lower` and `str.upper` of the runtime's Unicode tables. No law is
assumed of either conversion. -/
class CaseMapping where
  lower : String → String
  upper : String → String

/-- The conversion that changes the ASCII letters only, as the runtime's tables
do on ASCII text. It serves evaluation at concrete inputs. -/
abbrev asciiCase : CaseMapping where
  lower text := String.ofList (text.toList.map Char.toLower)
  upper text := String.ofList (text.toList.map Char.toUpper)

/-- `str.isalpha` of one character, from the same tables. -/
class AlphabetTable where
  isAlpha : Char → Bool

/-- The ASCII letters. -/
abbrev asciiAlphabet : AlphabetTable where
  isAlpha := Char.isAlpha

/-- The code points for which `str.isspace` holds. -/
def isSpace (c : Char) : Bool :=
  let code := c.toNat
  (0x09 ≤ code && code ≤ 0x0D) || (0x1C ≤ code && code ≤ 0x20) || code == 0x85 ||
    code == 0xA0 || code == 0x1680 || (0x2000 ≤ code && code ≤ 0x200A) || code == 0x2028 ||
    code == 0x2029 || code == 0x202F || code == 0x205F || code == 0x3000

/-- White space removed at both ends. -/
def stripChars (chars : List Char) : List Char :=
  ((chars.dropWhile isSpace).reverse.dropWhile isSpace).reverse

/-- `str.strip` without an argument. -/
def strip (text : String) : String := String.ofList (stripChars text.toList)

/-- The maximal runs of other characters, `current` being the run under way. -/
def wordsFrom : List Char → List Char → List String
  | current, [] => if current.isEmpty then [] else [String.ofList current.reverse]
  | current, c :: rest =>
    if isSpace c then
      if current.isEmpty then wordsFrom [] rest
      else String.ofList current.reverse :: wordsFrom [] rest
    else wordsFrom (c :: current) rest

/-- A first character that is not white space stays the first. -/
theorem strip_head {text : String} {first : Char} {rest : List Char}
    (opens : text.toList = first :: rest) (start : isSpace first = false) :
    ∃ kept, (strip text).toList = first :: kept := by
  have trimmed : (strip text).toList = (first :: rest).rdropWhile isSpace := by
    simp [strip, stripChars, opens, start, List.rdropWhile]
  rw [trimmed]
  cases shape : (first :: rest).rdropWhile isSpace with
  | nil =>
    have all := List.rdropWhile_eq_nil_iff.mp shape first (List.mem_cons_self ..)
    rw [start] at all
    cases all
  | cons other kept =>
    have starts := List.rdropWhile_prefix (p := isSpace) (l := first :: rest)
    rw [shape] at starts
    obtain ⟨same, -⟩ := List.cons_prefix_cons.mp starts
    exact ⟨kept, by rw [same]⟩

/-- Text between an opening and a closing that are not white space is not trimmed. -/
theorem strip_between {opening closing : String} {first last : Char} {front back : List Char}
    (text : String) (opens : opening.toList = first :: front)
    (closes : closing.toList = back ++ [last]) (start : isSpace first = false)
    (stop : isSpace last = false) :
    strip (opening ++ text ++ closing) = opening ++ text ++ closing := by
  have shape : (opening ++ text ++ closing).toList =
      first :: (front ++ text.toList ++ back ++ [last]) := by
    simp [String.toList_append, opens, closes]
  have trimmed : stripChars (opening ++ text ++ closing).toList =
      (opening ++ text ++ closing).toList := by
    rw [shape]
    simp [stripChars, start, stop]
  rw [strip, trimmed, String.ofList_toList]

theorem between_ne_empty {opening : String} (text closing : String) (present : opening ≠ "") :
    opening ++ text ++ closing ≠ "" := by
  simp [present]

/-- `str.split` without an argument. -/
def words (text : String) : List String := wordsFrom [] text.toList

/-- `" ".join(text.split())`. -/
def collapse (text : String) : String := " ".intercalate (words text)

/-- `str.isalpha`. -/
def isAlphabetic [AlphabetTable] (text : String) : Bool :=
  text != "" && text.toList.all AlphabetTable.isAlpha

/-- `text.endswith(suffix)`. -/
def endsWith (text suffix : String) : Bool :=
  suffix.toList.reverse.isPrefixOf text.toList.reverse

/-- `part in text`. -/
def contains (text part : String) : Bool :=
  text.toList.tails.any (part.toList.isPrefixOf ·)

/-- `text.replace(old, new)` for single characters. -/
def replaceChar (old new : Char) (text : String) : String :=
  text.map fun c => if c = old then new else c

/-- `text.rsplit(mark, 1)` where the mark occurs: the text before its last
occurrence and the text after it. -/
def rsplitLast (mark : Char) (text : String) : String × String :=
  let backwards := text.toList.reverse
  (String.ofList ((backwards.dropWhile (· ≠ mark)).drop 1).reverse,
    String.ofList (backwards.takeWhile (· ≠ mark)).reverse)

/-- The split is at the last occurrence of the mark. -/
theorem rsplitLast_append {mark : Char} {front back : List Char} (absent : mark ∉ back) :
    rsplitLast mark (String.ofList (front ++ mark :: back)) =
      (String.ofList front, String.ofList back) := by
  have plain : ∀ c ∈ back.reverse, decide (c ≠ mark) = true := by
    intro c member
    refine decide_eq_true fun same => absent ?_
    exact same ▸ List.mem_reverse.mp member
  have backwards : (front ++ mark :: back).reverse = back.reverse ++ mark :: front.reverse := by
    simp
  simp only [rsplitLast, String.toList_ofList, backwards,
    List.dropWhile_append_of_pos plain, List.takeWhile_append_of_pos plain]
  simp

/-- `text[:-1]`. -/
def dropLast (text : String) : String := String.ofList text.toList.dropLast

/-- `value or ""`. -/
def orEmpty (value : Option String) : String := value.getD ""

@[simp] theorem orEmpty_none : orEmpty none = "" := rfl

@[simp] theorem orEmpty_some (text : String) : orEmpty (some text) = text := rfl

/-- The truth value of optional text. -/
def truthy (value : Option String) : Bool := orEmpty value != ""

@[simp] theorem truthy_none : truthy none = false := rfl

@[simp] theorem truthy_some (text : String) : truthy (some text) = (text != "") := rfl

/-- Text that tests true is present. -/
theorem truthy_isSome {value : Option String} (present : truthy value = true) :
    ∃ text, value = some text ∧ text ≠ "" := by
  cases value with
  | none => simp at present
  | some text => exact ⟨text, rfl, by simpa using present⟩

end FinopsAnalytics.PythonText
