import Bimarz.Json.Text
import Bimarz.Store.State
import Bimarz.Text.Hex

/-!
# A library that meets the laws

Real JSON, and a cipher without secrecy: the key is the password, and a token is the key and the
plaintext in hexadecimal. It shows that the laws of a `Library` are consistent and runs the store on
concrete inputs.
-/

namespace Bimarz.Store

namespace Plain

def token (key plaintext : Bytes) : List Char := Hex.encode key ++ '.' :: Hex.encode plaintext

def encrypt (key : Bytes) (_nonce plaintext : Bytes) : String := String.ofList (token key plaintext)

def isDigit (c : Char) : Bool := c ≠ '.'

def decrypt (key : Bytes) (text : String) : Option Bytes :=
  if text.toList.takeWhile isDigit = Hex.encode key then
    Hex.decode ((text.toList.dropWhile isDigit).drop 1)
  else none

theorem isDigit_digit {n : ℕ} (h : n < 16) : isDigit (Hex.digit n) = true := by
  revert n
  decide

theorem mem_hex {bs : Bytes} {c : Char} (h : c ∈ Hex.encode bs) : ∃ n < 16, c = Hex.digit n := by
  obtain ⟨b, -, hc⟩ := List.mem_flatMap.mp h
  have hb := b.toNat_lt
  simp only [List.mem_cons, List.not_mem_nil, or_false] at hc
  rcases hc with rfl | rfl
  · exact ⟨b.toNat / 16, by omega, rfl⟩
  · exact ⟨b.toNat % 16, by omega, rfl⟩

theorem isDigit_hex (bs : Bytes) : ∀ c ∈ Hex.encode bs, isDigit c = true := by
  intro c hc
  obtain ⟨n, hn, rfl⟩ := mem_hex hc
  exact isDigit_digit hn

theorem takeWhile_token (key plaintext : Bytes) :
    (token key plaintext).takeWhile isDigit = Hex.encode key := by
  unfold token
  rw [List.takeWhile_append_of_pos (isDigit_hex key), List.takeWhile_cons_of_neg (by decide),
    List.append_nil]

theorem dropWhile_token (key plaintext : Bytes) :
    (token key plaintext).dropWhile isDigit = '.' :: Hex.encode plaintext := by
  unfold token
  rw [List.dropWhile_append_of_pos (isDigit_hex key), List.dropWhile_cons_of_neg (by decide)]

theorem encode_injective {bs bs' : Bytes} (h : Hex.encode bs = Hex.encode bs') : bs = bs' := by
  have heq := Hex.decode_encode bs
  rw [h, Hex.decode_encode] at heq
  exact (Option.some.inj heq).symm

end Plain

def plain : Library Bytes Empty where
  json := Json.text
  deriveKey password _ := Utf8.encode password
  encrypt := Plain.encrypt
  decrypt := Plain.decrypt

theorem plain_lawful : plain.Lawful where
  json := Json.text_undoes
  ascii := by
    intro key nonce plaintext c hc
    simp only [plain, Plain.encrypt, Plain.token, String.toList_ofList, List.mem_append,
      List.mem_cons] at hc
    rcases hc with hc | rfl | hc
    · obtain ⟨n, hn, rfl⟩ := Plain.mem_hex hc
      exact Hex.digit_ascii hn
    · decide
    · obtain ⟨n, hn, rfl⟩ := Plain.mem_hex hc
      exact Hex.digit_ascii hn
  decrypt_encrypt := by
    intro key nonce plaintext
    simp only [plain, Plain.decrypt, Plain.encrypt, String.toList_ofList, Plain.takeWhile_token,
      Plain.dropWhile_token, if_true]
    exact Hex.decode_encode plaintext
  decrypt_other := by
    intro key key' nonce plaintext hne
    simp only [plain, Plain.decrypt, Plain.encrypt, String.toList_ofList, Plain.takeWhile_token]
    exact if_neg fun heq => hne (Plain.encode_injective heq).symm
  deriveKey_injective := by
    intro password password' _ heq
    have hdecode := Utf8.decode_encode password
    rw [show Utf8.encode password = Utf8.encode password' from heq, Utf8.decode_encode] at hdecode
    exact (Option.some.inj hdecode).symm

end Bimarz.Store
