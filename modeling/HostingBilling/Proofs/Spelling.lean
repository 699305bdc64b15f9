import HostingBilling.Task.Payload
import Mathlib.Tactic.IntervalCases

/-!
# Identifiers and payloads in writing

An identifier is read back from its text, and so is the payload of a provisioning task: the worker finds
in a task what was submitted.
-/

namespace HostingBilling

namespace Text

theorem length_hexDigits (count n : Nat) : (hexDigits count n).length = count := by
  induction count generalizing n with
  | zero => rfl
  | succ count ih => simp [hexDigits, ih]

theorem hexValue?_hexDigit {n : Nat} (h : n < 16) : hexValue? (hexDigit n) = some n := by
  interval_cases n <;> decide

/-- Writing a number in so many digits and reading them gives what the digits can hold. -/
theorem hexValues?_hexDigits (count n : Nat) :
    hexValues? (hexDigits count n) = some (n % Nat.pow 16 count) := by
  induction count generalizing n with
  | zero => simp [hexValues?, hexDigits, Nat.mod_one]
  | succ count ih =>
    have last := hexValue?_hexDigit (Nat.mod_lt n (by decide : 0 < 16))
    have split : n % Nat.pow 16 (count + 1) = n % 16 + 16 * (n / 16 % Nat.pow 16 count) := by
      rw [← Nat.mod_mul, Nat.mul_comm]
      rfl
    unfold hexValues? at ih ⊢
    rw [hexDigits, List.foldlM_append, ih, split]
    simp [last, Nat.add_comm, Nat.mul_comm]

end Text

namespace Uuid

theorem ofNat_val (u : Uuid) : ofNat u.val = u := by
  obtain ⟨n, h⟩ := u
  simp [ofNat, Nat.mod_eq_of_lt h]

theorem length_digits (u : Uuid) : u.digits.length = 32 := Text.length_hexDigits 32 u.val

theorem length_hyphenate {ds : List Char} (h : ds.length = 32) : (hyphenate ds).length = 36 := by
  simp [hyphenate, h]

theorem unhyphenate?_hyphenate {ds : List Char} (h : ds.length = 32) :
    unhyphenate? (hyphenate ds) = some ds := by
  have part (i j : Nat) : (ds.drop i).take j ++ ds.drop (i + j) = ds.drop i := by
    rw [← List.drop_drop, List.take_append_drop]
  have len := length_hyphenate h
  simp only [unhyphenate?, len]
  simp [hyphenate, h, List.drop_append, List.drop_take]
  rw [part 16 4, part 12 4, part 8 4, List.take_append_drop]

theorem ofDigits?_digits (u : Uuid) : ofDigits? u.digits = some u := by
  have value : Text.hexValues? u.digits = some u.val := by
    rw [digits, Text.hexValues?_hexDigits, Nat.mod_eq_of_lt u.isLt]
  simp [ofDigits?, length_digits, value, ofNat_val]

theorem parse?_toText (u : Uuid) : parse? u.toText = some u := by
  have len := length_hyphenate u.length_digits
  simp only [parse?, toText, String.toList_ofList, ofChars?, len]
  simp [ofHyphenated?, unhyphenate?_hyphenate u.length_digits, ofDigits?_digits]

theorem decode_encode (u : Uuid) : decode u.encode = .ok u := by
  simp [decode, encode, parse?_toText]

end Uuid

/-- What is submitted for a service is what the worker reads. -/
theorem ProvisionPayload.decode_encode (p : ProvisionPayload) : decode p.encode = .ok p := by
  have known (u : Uuid) : Uuid.decode u.encode = .ok u := u.decode_encode
  simp [decode, encode, shape, Json.Shape.read, Json.Shape.checkMembers, Json.field, Json.need, known,
    List.lookup_cons, bind, Except.bind, Except.map, pure, Except.pure]

theorem Payload.decode_provision (p : ProvisionPayload) :
    decode .provisionVps p.encode = .ok (.provision p) := by
  have read := p.decode_encode
  simp only [decode, decodeAs, ProvisionPayload.encode] at read ⊢
  simp [read, Except.map]

end HostingBilling
