import Mathlib.Data.String.Basic

/-!
# The order of texts by their bytes

Texts are compared character by character, by the numbers of the characters.  A program that has
them as UTF-8 compares their bytes.  It comes to the same, since the encoding keeps the order: what
is encoded in more bytes begins with a greater one.

## What is here

* `utf8Bytes` — the bytes of a text.
* `encodeNumber_append_lt` — a smaller character has smaller bytes, whatever comes behind it.
* `utf8Bytes_lt_iff` — **the order of the bytes is the order of the characters.**
-/

set_option autoImplicit false

namespace Scopewright

/-- The bytes of a text. -/
def utf8Bytes (s : String) : List UInt8 := s.toUTF8.data.toList

/-- The bytes of the character of a number. -/
def encodeNumber (n : Nat) : List UInt8 :=
  if n ≤ 0x7f then [.ofNat n]
  else if n ≤ 0x7ff then [.ofNat (n / 64 % 32 + 192), .ofNat (n % 64 + 128)]
  else if n ≤ 0xffff then
    [.ofNat (n / 4096 % 16 + 224), .ofNat (n / 64 % 64 + 128), .ofNat (n % 64 + 128)]
  else
    [.ofNat (n / 262144 % 8 + 240), .ofNat (n / 4096 % 64 + 128), .ofNat (n / 64 % 64 + 128),
      .ofNat (n % 64 + 128)]

theorem utf8Bytes_ofList (l : List Char) :
    utf8Bytes (.ofList l) = l.flatMap fun c ↦ encodeNumber c.val.toNat := by
  rw [utf8Bytes, String.toUTF8_eq_toByteArray, String.toByteArray_ofList]
  show ((l.flatMap String.utf8EncodeChar).toByteArray).data.toList = _
  rw [List.data_toByteArray]
  rfl

/-- Bytes are compared by their numbers, from the front on. -/
theorem ofNat_cons_lt_iff {a b : Nat} (ha : a < 256) (hb : b < 256) {x y : List UInt8} :
    .ofNat a :: x < .ofNat b :: y ↔ a < b ∨ a = b ∧ x < y := by
  rw [List.cons_lt_cons_iff, UInt8.lt_iff_toNat_lt, ← UInt8.toNat_inj, UInt8.toNat_ofNat',
    UInt8.toNat_ofNat', Nat.mod_eq_of_lt ha, Nat.mod_eq_of_lt hb]

/-- **A smaller character has smaller bytes**, whatever comes behind it. -/
theorem encodeNumber_append_lt {m n : Nat} (h : m < n) (hn : n < 0x110000) (x y : List UInt8) :
    encodeNumber m ++ x < encodeNumber n ++ y := by
  unfold encodeNumber
  -- more bytes begin with a greater one, and as many bytes are compared digit by digit
  split_ifs <;> simp (disch := omega) only [List.cons_append, List.nil_append, ofNat_cons_lt_iff,
    Nat.mod_eq_of_lt] <;> omega

theorem nil_lt_encodeNumber_append (n : Nat) (x : List UInt8) : [] < encodeNumber n ++ x := by
  unfold encodeNumber
  split_ifs <;> exact List.nil_lt_cons _ _

/-- The order of two lists of characters is that of their bytes. -/
theorem flatMap_encodeNumber_lt {l m : List Char} (h : l < m) :
    (l.flatMap fun c ↦ encodeNumber c.val.toNat) < m.flatMap fun c ↦ encodeNumber c.val.toNat := by
  induction m generalizing l with
  | nil => exact absurd h (List.not_lt_nil l)
  | cons d m ih =>
    cases l with
    | nil =>
      rw [List.flatMap_nil, List.flatMap_cons]
      exact nil_lt_encodeNumber_append _ _
    | cons c l =>
      rw [List.flatMap_cons, List.flatMap_cons]
      rcases List.cons_lt_cons_iff.mp h with hlt | ⟨rfl, hlt⟩
      · have hd : d.val.toNat < 0x110000 := by
          have hvalid := d.valid
          rcases hvalid with hvalid | ⟨-, hvalid⟩
          · exact hvalid.trans (by decide)
          · exact hvalid
        exact encodeNumber_append_lt hlt hd _ _
      · exact List.append_left_lt (ih hlt)

/-- **The order of the bytes is the order of the characters.** -/
theorem utf8Bytes_lt_iff {s t : String} : utf8Bytes s < utf8Bytes t ↔ s < t := by
  have hlt : ∀ {s t : String}, s < t → utf8Bytes s < utf8Bytes t := by
    intro s t h
    rw [← s.ofList_toList, ← t.ofList_toList, utf8Bytes_ofList, utf8Bytes_ofList]
    exact flatMap_encodeNumber_lt h
  refine ⟨fun h ↦ ?_, hlt⟩
  rcases lt_trichotomy s t with hst | rfl | hts
  · exact hst
  · exact absurd h (List.lt_irrefl _)
  · exact absurd h (List.lt_asymm (hlt hts))

end Scopewright
