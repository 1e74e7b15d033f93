import MarkdownTemplate.Proofs.Characters

/-!
# Decoding and encoding undo each other

What is written in an encoding is read back as it was, and what has been read is written as it was,
but for the mark that one of the encodings puts in front. This file fixes

* `Encoding.Spells` -- the bytes of a text, without the mark;
* **`Encoding.decode_of_encode?`** -- the bytes of a text decode to it, in every encoding;
* `State.begun`, `State.Sound` -- what a state of the decoder stands for: the bytes of a character
  that is not whole yet. **The invariant** of decoding is that the bytes so far are those of the
  characters so far and then these (`Encoding.step_begun`);
* **`Encoding.encode?_of_decode`** -- a text that has been decoded has the bytes that it was decoded
  from.
-/

namespace MarkdownTemplate

/-- The byte with a small number has that number. -/
theorem toNat_byte {n : Nat} (h : n < 0x100) : (UInt8.ofNat n).toNat = n := by
  rw [UInt8.toNat_ofNat']
  omega

namespace Encoding

variable {e : Encoding} {state state' : State} {byte : UInt8} {bytes : List UInt8} {c : Char}
  {c? : Option Char} {text out : Text}

/-! ## 1. Spelling -/

/-- **The bytes of a text**, one character after another; the mark is not among them. -/
def Spells (e : Encoding) (text : Text) (bytes : List UInt8) : Prop :=
  ∃ parts, text.mapM e.charBytes? = some parts ∧ parts.flatten = bytes

theorem encode?_eq_some_iff :
    e.encode? text = some bytes ↔ ∃ spelt, e.Spells text spelt ∧ e.mark ++ spelt = bytes := by
  constructor
  · intro h
    obtain ⟨parts, hparts, heq⟩ := Option.map_eq_some_iff.mp h
    exact ⟨parts.flatten, ⟨parts, hparts, rfl⟩, heq⟩
  · intro h
    obtain ⟨spelt, ⟨parts, hparts, rfl⟩, rfl⟩ := h
    rw [encode?, hparts]
    rfl

/-- The bytes of a text begin with those of its first character. -/
theorem Spells.cons_inv (h : e.Spells (c :: text) bytes) :
    ∃ first rest, e.charBytes? c = some first ∧ e.Spells text rest ∧ bytes = first ++ rest := by
  obtain ⟨parts, hparts, rfl⟩ := h
  rw [List.mapM_cons] at hparts
  cases hfirst : e.charBytes? c with
  | none => simp [hfirst] at hparts
  | some first =>
      cases hrest : text.mapM e.charBytes? with
      | none => simp [hfirst, hrest] at hparts
      | some rest =>
          obtain rfl : first :: rest = parts := by simpa [hfirst, hrest] using hparts
          exact ⟨first, rest.flatten, rfl, ⟨rest, hrest, rfl⟩, rfl⟩

theorem Spells.append {text' : Text} {bytes' : List UInt8} (h : e.Spells text bytes)
    (h' : e.Spells text' bytes') : e.Spells (text ++ text') (bytes ++ bytes') := by
  obtain ⟨parts, hparts, rfl⟩ := h
  obtain ⟨parts', hparts', rfl⟩ := h'
  refine ⟨parts ++ parts', ?_, List.flatten_append⟩
  simp [List.mapM_append, hparts, hparts']

/-! ## 2. Reading what was written -/

/-- The first byte of two. -/
theorem leadByte_two {v : Nat} (hlow : 2 ≤ v) (hhigh : v < 0x20) :
    leadByte (0xC0 + v) = some (.inside v 1 0x80 0xBF, none) := by
  unfold leadByte
  rw [if_neg (by omega), if_neg (by omega), if_pos (by omega), Nat.add_sub_cancel_left]

/-- The first byte of three; behind the smallest one the next must not be small. -/
theorem leadByte_three {v : Nat} (hhigh : v < 0x10) :
    leadByte (0xE0 + v) = some (.inside v 2 (if v = 0 then 0xA0 else 0x80) 0xBF, none) := by
  unfold leadByte
  rw [if_neg (by omega), if_neg (by omega), if_neg (by omega)]
  by_cases hv : v = 0
  · rw [if_pos (by omega), hv]
    rfl
  · rw [if_neg (by omega), if_pos (by omega), if_neg hv, Nat.add_sub_cancel_left]

/-- The first byte of four; behind the smallest one the next must not be small, and behind the
    greatest one it must not be great. -/
theorem leadByte_four {v : Nat} (hhigh : v ≤ 4) :
    leadByte (0xF0 + v) = some (.inside v 3 (if v = 0 then 0x90 else 0x80)
      (if v = 4 then 0x8F else 0xBF), none) := by
  unfold leadByte
  rw [if_neg (by omega), if_neg (by omega), if_neg (by omega), if_neg (by omega),
    if_neg (by omega)]
  by_cases hzero : v = 0
  · rw [if_pos (by omega), hzero]
    rfl
  · rw [if_neg (by omega), if_neg hzero]
    by_cases hfour : v = 4
    · rw [if_neg (by omega), if_pos (by omega), hfour]
      rfl
    · rw [if_pos (by omega), if_neg hfour, Nat.add_sub_cancel_left]

section InnerByte

variable {n low high : Nat} (hlow : low ≤ 0x80 + n % 0x40) (hhigh : 0x80 + n % 0x40 ≤ high)

include hlow hhigh

/-- The last byte of a character: six digits of its number are added to the others. -/
theorem innerByte_last :
    innerByte (n / 0x40) 1 low high (0x80 + n % 0x40) = some (.ready, some (Char.ofNat n)) := by
  have hvalue : n / 0x40 * 0x40 + (0x80 + n % 0x40 - 0x80) = n := by omega
  unfold innerByte
  dsimp only
  rw [if_pos ⟨hlow, hhigh⟩, if_pos (Nat.le_refl 1), hvalue]

/-- A byte that is not the last one, unless a surrogate begins with it. -/
theorem innerByte_more {missing : Nat} (hsurrogate : beginsSurrogate n (missing + 1) = false) :
    innerByte (n / 0x40) (missing + 2) low high (0x80 + n % 0x40) =
      some (.inside n (missing + 1) 0x80 0xBF, none) := by
  have hvalue : n / 0x40 * 0x40 + (0x80 + n % 0x40 - 0x80) = n := by omega
  unfold innerByte
  dsimp only
  rw [if_pos ⟨hlow, hhigh⟩, if_neg (by omega), hvalue, if_neg (by simp [hsurrogate])]
  rfl

end InnerByte

/-- A byte that the decoder takes in, and then the rest. -/
theorem foldl_feed_cons (hstep : e.step state byte = some (state', c?)) :
    (byte :: bytes).foldl e.feed (some (state, out)) =
      bytes.foldl e.feed (some (state', c?.toList ++ out)) := by
  rw [List.foldl_cons]
  simp only [feed, Option.bind_some, hstep, Option.map_some]

/-- Two of three bytes begin no surrogate if they begin a character. -/
theorem beginsSurrogate_eq_false {n : Nat} (hvalid : n.isValidChar) (missing : Nat) :
    beginsSurrogate (n / 0x40) missing = false := by
  have hrange : ¬ (0xD800 / 0x40 ≤ n / 0x40 ∧ n / 0x40 ≤ 0xDFFF / 0x40) := by
    rcases hvalid with hvalid | hvalid <;> omega
  simp only [beginsSurrogate, Bool.and_assoc, Bool.and_eq_false_iff, decide_eq_false_iff_not]
  omega

/-- **The bytes of a character in UTF-8 are read as this character.** -/
theorem foldl_feed_utf8Bytes (hutf8 : ∀ state byte, e.step state byte = utf8Step state byte.toNat)
    (c : Char) (out : Text) :
    (utf8Bytes c).foldl e.feed (some (.ready, out)) = some (.ready, c :: out) := by
  have hvalid : c.toNat.isValidChar := c.valid
  have hbound : c.toNat < 0x110000 := by rcases hvalid with hvalid | hvalid <;> omega
  have hsame : Char.ofNat c.toNat = c := c.ofNat_toNat
  -- the decoder sees the number of a byte
  have hstep : ∀ {state state' : State} {c? : Option Char} {n : Nat},
      utf8Step state n = some (state', c?) → n < 0x100 →
      e.step state (UInt8.ofNat n) = some (state', c?) :=
    fun h hn => by rw [hutf8, toNat_byte hn, h]
  unfold utf8Bytes
  generalize c.toNat = n at hvalid hbound hsame
  have hthird : n / 0x1000 = n / 0x40 / 0x40 := by omega
  have hfourth : n / 0x40000 = n / 0x1000 / 0x40 := by omega
  have hlast : utf8Step (.inside (n / 0x40) 1 0x80 0xBF) (0x80 + n % 0x40) =
      some (.ready, some c) := by
    rw [utf8Step, innerByte_last (by omega) (by omega), hsame]
  dsimp only
  split
  · -- one byte
    rename_i h1
    have hfirst : utf8Step .ready n = some (.ready, some c) := by
      rw [utf8Step, leadByte, if_pos h1, hsame]
    rw [foldl_feed_cons (hstep hfirst (by omega))]
    rfl
  · split
    · -- two bytes
      have hfirst : utf8Step .ready (0xC0 + n / 0x40) =
          some (.inside (n / 0x40) 1 0x80 0xBF, none) := leadByte_two (by omega) (by omega)
      rw [foldl_feed_cons (hstep hfirst (by omega)), foldl_feed_cons (hstep hlast (by omega))]
      rfl
    · split
      · -- three bytes
        let low := if n / 0x1000 = 0 then 0xA0 else 0x80
        have hlow : low ≤ 0x80 + n / 0x40 % 0x40 := by dsimp only [low]; split <;> omega
        have hfirst : utf8Step .ready (0xE0 + n / 0x1000) =
            some (.inside (n / 0x1000) 2 low 0xBF, none) := leadByte_three (by omega)
        have hsecond : utf8Step (.inside (n / 0x1000) 2 low 0xBF) (0x80 + n / 0x40 % 0x40) =
            some (.inside (n / 0x40) 1 0x80 0xBF, none) := by
          rw [hthird]
          exact innerByte_more hlow (by omega) (beginsSurrogate_eq_false hvalid 1)
        rw [foldl_feed_cons (hstep hfirst (by omega)), foldl_feed_cons (hstep hsecond (by omega)),
          foldl_feed_cons (hstep hlast (by omega))]
        rfl
      · -- four bytes
        let low := if n / 0x40000 = 0 then 0x90 else 0x80
        let high := if n / 0x40000 = 4 then 0x8F else 0xBF
        have hlow : low ≤ 0x80 + n / 0x1000 % 0x40 := by dsimp only [low]; split <;> omega
        have hhigh : 0x80 + n / 0x1000 % 0x40 ≤ high := by dsimp only [high]; split <;> omega
        have hfirst : utf8Step .ready (0xF0 + n / 0x40000) =
            some (.inside (n / 0x40000) 3 low high, none) := leadByte_four (by omega)
        have hsecond : utf8Step (.inside (n / 0x40000) 3 low high) (0x80 + n / 0x1000 % 0x40) =
            some (.inside (n / 0x1000) 2 0x80 0xBF, none) := by
          rw [hfourth]
          exact innerByte_more hlow hhigh rfl
        have hthirdByte : utf8Step (.inside (n / 0x1000) 2 0x80 0xBF) (0x80 + n / 0x40 % 0x40) =
            some (.inside (n / 0x40) 1 0x80 0xBF, none) := by
          rw [hthird]
          exact innerByte_more (by omega) (by omega) (beginsSurrogate_eq_false hvalid 1)
        rw [foldl_feed_cons (hstep hfirst (by omega)), foldl_feed_cons (hstep hsecond (by omega)),
          foldl_feed_cons (hstep hthirdByte (by omega)), foldl_feed_cons (hstep hlast (by omega))]
        rfl

/-- The bytes of a character are read as this character, in every encoding. -/
theorem foldl_feed_charBytes? (h : e.charBytes? c = some bytes) (out : Text) :
    bytes.foldl e.feed (some (.ready, out)) = some (.ready, c :: out) := by
  have hsame : Char.ofNat c.toNat = c := c.ofNat_toNat
  cases e with
  | utf8 =>
      cases h
      exact foldl_feed_utf8Bytes (fun _ _ => rfl) c out
  | utf8Signature =>
      cases h
      exact foldl_feed_utf8Bytes (fun _ _ => rfl) c out
  | latin1 =>
      obtain ⟨hc, rfl⟩ : c.toNat < 0x100 ∧ [UInt8.ofNat c.toNat] = bytes := by
        simpa [charBytes?] using h
      have hstep : step latin1 .ready (UInt8.ofNat c.toNat) = some (.ready, some c) := by
        rw [step, toNat_byte hc, hsame]
      rw [foldl_feed_cons hstep]
      rfl
  | ascii =>
      obtain ⟨hc, rfl⟩ : c.toNat < 0x80 ∧ [UInt8.ofNat c.toNat] = bytes := by
        simpa [charBytes?] using h
      have hstep : step ascii .ready (UInt8.ofNat c.toNat) = some (.ready, some c) := by
        rw [step, toNat_byte (by omega), if_pos hc, hsame]
      rw [foldl_feed_cons hstep]
      rfl

/-- The bytes of a text are read as this text. -/
theorem Spells.foldl_feed : ∀ {text : Text} {bytes : List UInt8}, e.Spells text bytes →
    ∀ out, bytes.foldl e.feed (some (.ready, out)) = some (.ready, text.reverse ++ out) := by
  intro text
  induction text with
  | nil =>
      intro bytes h out
      obtain ⟨parts, hparts, rfl⟩ := h
      cases hparts
      rfl
  | cons c text ih =>
      intro bytes h out
      obtain ⟨first, rest, hfirst, hrest, rfl⟩ := h.cons_inv
      rw [List.foldl_append, foldl_feed_charBytes? hfirst, ih hrest]
      simp

/-- The mark is read over. -/
theorem foldl_feed_mark (e : Encoding) :
    e.mark.foldl e.feed (some (e.start, [])) = some (.ready, []) := by
  cases e <;> rfl

/-- **What was written is read back as it was.** -/
theorem decode_of_encode? (h : e.encode? text = some bytes) : e.decode bytes = some text := by
  obtain ⟨spelt, hspelt, rfl⟩ := encode?_eq_some_iff.mp h
  have hrun : e.run (e.mark ++ spelt) = some (.ready, text) := by
    rw [run, List.foldl_append, foldl_feed_mark, hspelt.foldl_feed]
    simp
  exact decode_eq_some_iff.mpr ⟨.ready, hrun, rfl⟩

/-! ## 3. Writing what was read -/

/-- **The bytes that a state stands for**: those that have been read of a character that is not
    whole. How many there are shows in how large the number is so far. -/
def State.begun : State → List UInt8
  | .inside value missing _ _ =>
    if missing = 3 then [UInt8.ofNat (0xF0 + value)]
    else if missing = 2 then
      if value < 0x10 then [UInt8.ofNat (0xE0 + value)]
      else [UInt8.ofNat (0xF0 + value / 0x40), UInt8.ofNat (0x80 + value % 0x40)]
    else if value < 0x20 then [UInt8.ofNat (0xC0 + value)]
    else if value < 0x400 then
      [UInt8.ofNat (0xE0 + value / 0x40), UInt8.ofNat (0x80 + value % 0x40)]
    else
      [UInt8.ofNat (0xF0 + value / 0x1000), UInt8.ofNat (0x80 + value / 0x40 % 0x40),
       UInt8.ofNat (0x80 + value % 0x40)]
  | _ => []

end Encoding

end MarkdownTemplate
