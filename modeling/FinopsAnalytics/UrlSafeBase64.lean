import Mathlib.Data.List.DropRight
import Mathlib.Tactic.Common

/-!
# URL-safe base64

Three bytes are four characters of six bits. The decoder of the runtime is
lenient: it skips the characters outside its alphabet and stops at the padding
that closes a group. It is modelled as the automaton it is, so that what it
does on arbitrary text can be stated beside the round trip.
-/

namespace FinopsAnalytics.UrlSafeBase64

/-- The characters of the six-bit values. -/
def alphabet : List Char :=
  "ABCDEFGHIJKLMNOPQRSTUVWXYZabcdefghijklmnopqrstuvwxyz0123456789-_".toList

/-- The character of a six-bit value. -/
def symbol (value : Nat) : Char := alphabet.getD value '='

/-- The value of a character. The URL-safe decoder translates its two characters
to those of the standard alphabet, which keep their values. -/
def sextet (c : Char) : Option Nat :=
  if c = '+' then some 62
  else if c = '/' then some 63
  else alphabet.idxOf? c

theorem sextet_symbol : ∀ value < 64, sextet (symbol value) = some value := by
  decide +kernel

theorem symbol_mem : ∀ value < 64, symbol value ∈ alphabet := by
  decide +kernel

/-- No character of the alphabet is a padding or a separator. -/
theorem alphabet_plain : ∀ c ∈ alphabet, c ≠ '=' ∧ c ≠ '.' ∧ c.toNat < 128 := by
  have plain : alphabet.all (fun c => c != '=' && c != '.' && Nat.blt c.toNat 128) = true := by
    decide +kernel
  intro c member
  have kept := List.all_eq_true.mp plain c member
  simpa [and_assoc, Nat.blt_eq] using kept

/-- The characters of some bytes, without padding. -/
def unpadded : List UInt8 → List Char
  | [] => []
  | [a] => [symbol (a.toNat / 4), symbol (a.toNat % 4 * 16)]
  | [a, b] =>
    [symbol (a.toNat / 4), symbol (a.toNat % 4 * 16 + b.toNat / 16), symbol (b.toNat % 16 * 4)]
  | a :: b :: c :: rest =>
    symbol (a.toNat / 4) :: symbol (a.toNat % 4 * 16 + b.toNat / 16) ::
      symbol (b.toNat % 16 * 4 + c.toNat / 64) :: symbol (c.toNat % 64) :: unpadded rest

/-- The padding that completes the last group of four. -/
def paddingOf (length : Nat) : List Char := List.replicate ((4 - length % 4) % 4) '='

/-- `base64.urlsafe_b64encode`. -/
def urlsafeB64encode (bytes : List UInt8) : List Char :=
  unpadded bytes ++ paddingOf (unpadded bytes).length

inductive DecodingError where
  | notAscii | incorrectPadding | lonelyCharacter
deriving DecidableEq, Repr

/-- How far the decoder has read a group of four, with the bits not yet written. -/
inductive Quad where
  | zero
  | one (bits : Nat)
  | two (bits : Nat)
  | three (bits : Nat)
deriving DecidableEq, Repr

/-- The characters a group has had. -/
def Quad.position : Quad → Nat
  | .zero => 0
  | .one _ => 1
  | .two _ => 2
  | .three _ => 3

/-- A further six bits: the bytes they complete and the group that is left. -/
def Quad.take : Quad → Nat → List UInt8 × Quad
  | .zero, value => ([], .one value)
  | .one bits, value => ([UInt8.ofNat (bits * 4 + value / 16)], .two (value % 16))
  | .two bits, value => ([UInt8.ofNat (bits * 16 + value / 4)], .three (value % 4))
  | .three bits, value => ([UInt8.ofNat (bits * 64 + value)], .zero)

/-- `binascii.a2b_base64` outside its strict mode, `pads` being the padding seen
since the last character of the alphabet. -/
def decodeFrom (quad : Quad) (pads : Nat) : List Char → Except DecodingError (List UInt8)
  | [] =>
    match quad with
    | .zero => .ok []
    | .one _ => .error .lonelyCharacter
    | _ => .error .incorrectPadding
  | c :: rest =>
    if c = '=' then
      if 2 ≤ quad.position then
        if 4 ≤ quad.position + (pads + 1) then .ok [] else decodeFrom quad (pads + 1) rest
      else decodeFrom quad pads rest
    else
      match sextet c with
      | none => decodeFrom quad pads rest
      | some value => ((quad.take value).1 ++ ·) <$> decodeFrom (quad.take value).2 0 rest

/-- `base64.urlsafe_b64decode` of text. -/
def urlsafeB64decode (chars : List Char) : Except DecodingError (List UInt8) :=
  if chars.all (·.toNat < 128) then decodeFrom .zero 0 chars else .error .notAscii

/-- The decoder takes the character of a value as that value. -/
theorem decodeFrom_symbol (quad : Quad) (pads : Nat) {value : Nat} (small : value < 64)
    (rest : List Char) : decodeFrom quad pads (symbol value :: rest) =
      ((quad.take value).1 ++ ·) <$> decodeFrom (quad.take value).2 0 rest := by
  have plain := (alphabet_plain _ (symbol_mem value small)).1
  rw [decodeFrom, if_neg plain, sextet_symbol value small]

/-- A whole group decodes to its three bytes, whatever follows it. -/
theorem decodeFrom_group (a b c : UInt8) (pads : Nat) (rest : List Char) :
    decodeFrom .zero pads (symbol (a.toNat / 4) ::
      symbol (a.toNat % 4 * 16 + b.toNat / 16) :: symbol (b.toNat % 16 * 4 + c.toNat / 64) ::
        symbol (c.toNat % 64) :: rest) = ([a, b, c] ++ ·) <$> decodeFrom .zero 0 rest := by
  have aSmall := a.toNat_lt
  have bSmall := b.toNat_lt
  have cSmall := c.toNat_lt
  rw [decodeFrom_symbol _ _ (by omega), decodeFrom_symbol _ _ (by omega),
    decodeFrom_symbol _ _ (by omega), decodeFrom_symbol _ _ (by omega)]
  have first : a.toNat / 4 * 4 + (a.toNat % 4 * 16 + b.toNat / 16) / 16 = a.toNat := by omega
  have second : (a.toNat % 4 * 16 + b.toNat / 16) % 16 * 16 +
      (b.toNat % 16 * 4 + c.toNat / 64) / 4 = b.toNat := by omega
  have third : (b.toNat % 16 * 4 + c.toNat / 64) % 4 * 64 + c.toNat % 64 = c.toNat := by omega
  simp only [Quad.take, first, second, third, UInt8.ofNat_toNat]
  cases decodeFrom .zero 0 rest with
  | error raised => rfl
  | ok bytes => rfl

/-- The decoder inverts the encoder: group by group, and by the padding where the
last group is not full. -/
theorem decodeFrom_padded (bytes : List UInt8) :
    decodeFrom .zero 0 (unpadded bytes ++ paddingOf (unpadded bytes).length) = .ok bytes := by
  induction bytes using unpadded.induct with
  | case1 => rfl
  | case2 a =>
    have small := a.toNat_lt
    have whole : a.toNat / 4 * 4 + a.toNat % 4 * 16 / 16 = a.toNat := by omega
    simp only [unpadded, List.cons_append, List.nil_append]
    rw [decodeFrom_symbol _ _ (by omega), decodeFrom_symbol _ _ (by omega)]
    simp only [Quad.take, whole, UInt8.ofNat_toNat]
    rfl
  | case3 a b =>
    have aSmall := a.toNat_lt
    have bSmall := b.toNat_lt
    have first : a.toNat / 4 * 4 + (a.toNat % 4 * 16 + b.toNat / 16) / 16 = a.toNat := by omega
    have second : (a.toNat % 4 * 16 + b.toNat / 16) % 16 * 16 + b.toNat % 16 * 4 / 4 = b.toNat := by
      omega
    simp only [unpadded, List.cons_append, List.nil_append]
    rw [decodeFrom_symbol _ _ (by omega), decodeFrom_symbol _ _ (by omega),
      decodeFrom_symbol _ _ (by omega)]
    simp only [Quad.take, first, second, UInt8.ofNat_toNat]
    rfl
  | case4 a b c rest inductionHypothesis =>
    have samePadding : paddingOf (unpadded (a :: b :: c :: rest)).length =
        paddingOf (unpadded rest).length := by
      simp only [unpadded, List.length_cons, paddingOf]
      congr 1
      omega
    rw [samePadding, unpadded, List.cons_append, List.cons_append, List.cons_append,
      List.cons_append, decodeFrom_group, inductionHypothesis]
    rfl

/-- The characters that carry the bytes are those of the alphabet. -/
theorem mem_unpadded {bytes : List UInt8} : ∀ c ∈ unpadded bytes, c ∈ alphabet := by
  induction bytes using unpadded.induct with
  | case1 => simp [unpadded]
  | case2 a =>
    have small := a.toNat_lt
    simp only [unpadded, List.forall_mem_cons]
    exact ⟨symbol_mem _ (by omega), symbol_mem _ (by omega), by simp⟩
  | case3 a b =>
    have aSmall := a.toNat_lt
    have bSmall := b.toNat_lt
    simp only [unpadded, List.forall_mem_cons]
    exact ⟨symbol_mem _ (by omega), symbol_mem _ (by omega), symbol_mem _ (by omega), by simp⟩
  | case4 a b c rest inductionHypothesis =>
    have aSmall := a.toNat_lt
    have bSmall := b.toNat_lt
    have cSmall := c.toNat_lt
    simp only [unpadded, List.forall_mem_cons]
    exact ⟨symbol_mem _ (by omega), symbol_mem _ (by omega), symbol_mem _ (by omega),
      symbol_mem _ (by omega), inductionHypothesis⟩

/-- The padding is what `rstrip` removes from the encoded bytes. -/
theorem rdropWhile_urlsafeB64encode (bytes : List UInt8) :
    (urlsafeB64encode bytes).rdropWhile (· = '=') = unpadded bytes := by
  have kept : (unpadded bytes).rdropWhile (· = '=') = unpadded bytes := by
    rw [List.rdropWhile_eq_self_iff]
    intro nonempty
    have last := alphabet_plain _ (mem_unpadded _ (List.getLast_mem nonempty))
    simpa using last.1
  rw [urlsafeB64encode, List.rdropWhile, List.reverse_append, List.dropWhile_append_of_pos]
  · exact kept
  · intro c member
    have isPadding := List.eq_of_mem_replicate (List.mem_reverse.mp member)
    simpa using isPadding

/-- Bytes encoded without their padding decode once it is restored. -/
theorem urlsafeB64decode_unpadded (bytes : List UInt8) :
    urlsafeB64decode (unpadded bytes ++ paddingOf (unpadded bytes).length) = .ok bytes := by
  have ascii :
      (unpadded bytes ++ paddingOf (unpadded bytes).length).all (·.toNat < 128) = true := by
    rw [List.all_eq_true]
    intro c member
    rcases List.mem_append.mp member with carries | pads
    · exact decide_eq_true (alphabet_plain c (mem_unpadded c carries)).2.2
    · rw [List.eq_of_mem_replicate pads]
      decide
  rw [urlsafeB64decode, if_pos ascii, decodeFrom_padded]

end FinopsAnalytics.UrlSafeBase64
