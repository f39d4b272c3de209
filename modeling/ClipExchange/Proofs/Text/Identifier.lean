import Mathlib
import ClipExchange.TransactionId

/-!
# Identifiers as text

The octets of an identifier are read back from their hexadecimal digits, and the identifier from
its hyphenated form.

## Main results

* `Hex.toBytes?_ofBytes`: octets are read back from their digits.
* `TransactionId.ofText?_text`: an identifier is read back from its text form.
-/

namespace ClipExchange

/-- Octets are read back from their digits. -/
theorem Hex.toBytes?_ofBytes (bytes : Bytes) : toBytes? (ofBytes bytes) = some bytes := by
  induction bytes with
  | nil => rfl
  | cons b bytes ih =>
    have hb := b.toNat_lt
    have hhigh : value? (digit (b.toNat / 16)) = some (b.toNat / 16) := value?_digit (by omega)
    have hlow : value? (digit (b.toNat % 16)) = some (b.toNat % 16) := value?_digit (by omega)
    have hvalue : UInt8.ofNat (16 * (b.toNat / 16) + b.toNat % 16) = b := by
      rw [Nat.div_add_mod, UInt8.ofNat_toNat]
    rw [ofBytes] at ih
    simp only [ofBytes, List.flatMap_cons, ofByte, List.cons_append, List.nil_append, toBytes?,
      hhigh, hlow, ih, Option.bind_eq_bind, Option.bind_some, hvalue]
    rfl

theorem Hex.length_ofBytes (bytes : Bytes) : (ofBytes bytes).length = 2 * bytes.length := by
  induction bytes with
  | nil => rfl
  | cons b bytes ih =>
    rw [ofBytes] at ih
    simp [ofBytes, ofByte, ih]
    omega

theorem Hex.ofBytes_append (bytes more : Bytes) :
    ofBytes (bytes ++ more) = ofBytes bytes ++ ofBytes more :=
  List.flatMap_append

namespace TransactionId

/-- Groups of digits joined by hyphens are read as the digits without the hyphens. -/
theorem ofHyphenated?_groups {first second third fourth fifth : List Char}
    (hfirst : first.length = 8) (hsecond : second.length = 4) (hthird : third.length = 4)
    (hfourth : fourth.length = 4) (hfifth : fifth.length = 12) :
    ofHyphenated?
        (first ++ '-' :: (second ++ '-' :: (third ++ '-' :: (fourth ++ '-' :: fifth)))) =
      ofDigits? (first ++ second ++ third ++ fourth ++ fifth) := by
  simp only [ofHyphenated?, List.drop_left' hfirst, List.take_left' hfirst, afterHyphen?,
    Option.bind_eq_bind, Option.bind_some, List.drop_left' hsecond, List.take_left' hsecond,
    List.drop_left' hthird, List.take_left' hthird, List.drop_left' hfourth,
    List.take_left' hfourth, hfifth, if_true]

/-- The octets in their five groups. -/
theorem groups_eq_octets (id : TransactionId) :
    id.octets.take 4 ++ (id.octets.drop 4).take 2 ++ (id.octets.drop 6).take 2 ++
      (id.octets.drop 8).take 2 ++ (id.octets.drop 10).take 6 = id.octets := by
  simp only [← List.take_add]
  exact List.take_of_length_le id.length_octets.le

/-- **An identifier is read back from its text form.** -/
theorem ofText?_text (id : TransactionId) : ofText? id.text = some id := by
  have hlength := id.length_octets
  have hgroups : ofHyphenated? id.textChars = ofDigits? (Hex.ofBytes id.octets) := by
    conv_rhs => rw [← id.groups_eq_octets]
    simp only [Hex.ofBytes_append]
    rw [← ofHyphenated?_groups]
    · simp [textChars]
    all_goals simp [Hex.length_ofBytes, hlength]
  have hchars : id.textChars.length = 36 := by
    simp [textChars, Hex.length_ofBytes, hlength]
  rw [ofText?, text, String.toList_ofList, ofChars?, hchars]
  simp only [hgroups, ofDigits?, Hex.toBytes?_ofBytes]
  simp [ofOctets?, hlength]

end TransactionId

end ClipExchange
