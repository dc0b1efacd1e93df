import LedPattern.Program.Listing
import LedPattern.Proofs.Color.Written
import LedPattern.Proofs.Pattern.Encode
import LedPattern.Proofs.Program.Layout
import LedPattern.Proofs.Text.Numeral
import LedPattern.Proofs.Text.Split
/-!
What a listing shows. Labels, values and remarks are written in plain characters, values without a space
among them, so that a line tells where its value ends, in colour and without. All values are read back
from the listing, and these tell everything about a program but its reserved bytes.
-/
namespace LedPattern
namespace Text

/-- The characters of ASCII that leave a mark. -/
def isMark (c : Char) : Bool := 0x21 ≤ c.toNat && c.toNat ≤ 0x7e

/-- Marks and spaces. -/
def isPlain (c : Char) : Bool := c = ' ' || isMark c

/-- One or more marks. -/
structure Word (t : Text) : Prop where
  ne_nil : t ≠ []
  marks : ∀ c ∈ t, isMark c = true

instance (t : Text) : Decidable (Word t) :=
  decidable_of_iff (t ≠ [] ∧ ∀ c ∈ t, isMark c = true) ⟨fun h => ⟨h.1, h.2⟩, fun h => ⟨h.1, h.2⟩⟩

/-- Plain characters, of which the last is a mark. -/
structure Phrase (t : Text) : Prop where
  plain : ∀ c ∈ t, isPlain c = true
  last : ∃ c, t.getLast? = some c ∧ isMark c = true

theorem isPlain_of_isMark {c : Char} (h : isMark c = true) : isPlain c = true := by
  rw [isPlain, h, Bool.or_true]

theorem Word.phrase {t : Text} (h : Word t) : Phrase t where
  plain := fun c hc => isPlain_of_isMark (h.marks c hc)
  last := ⟨t.getLast h.ne_nil, List.getLast?_eq_getLast_of_ne_nil h.ne_nil,
    h.marks _ (List.getLast_mem h.ne_nil)⟩

theorem Phrase.append {a b : Text} (ha : ∀ c ∈ a, isPlain c = true) (hb : Phrase b) :
    Phrase (a ++ b) where
  plain := by
    intro c hc
    rcases List.mem_append.mp hc with hmem | hmem
    · exact ha c hmem
    · exact hb.plain c hmem
  last := by
    obtain ⟨c, hlast, hmark⟩ := hb.last
    exact ⟨c, by rw [List.getLast?_append, hlast, Option.some_or], hmark⟩

theorem isMark_of_isDigit {c : Char} (h : c.isDigit = true) : isMark c = true := by
  simp only [Char.isDigit, Bool.and_eq_true, decide_eq_true_eq, ge_iff_le,
    UInt32.le_iff_toNat_le] at h
  have hrange : 48 ≤ c.toNat ∧ c.toNat ≤ 57 := h
  simp only [isMark, Bool.and_eq_true, decide_eq_true_eq]
  omega

theorem isMark_of_isHexDigit {c : Char} (h : isHexDigit c = true) : isMark c = true := by
  rw [isHexDigit_iff_toNat] at h
  simp only [isMark, Bool.and_eq_true, decide_eq_true_eq]
  omega

theorem word_ofNat (n : Nat) : Word (ofNat n) where
  ne_nil := ofNat_ne_nil n
  marks := fun _ hc => isMark_of_isDigit (isDigit_of_mem_ofNat hc)

theorem isHexDigit_of_mem_hexByteUpper {b : UInt8} {c : Char} (h : c ∈ hexByteUpper b) :
    isHexDigit c = true := by
  have hlt := b.toNat_lt
  have hex {n : Nat} (hn : n < 16) : isHexDigit (hexDigit n).toUpper = true := by
    rw [isHexDigit, hexValue?_toUpper_hexDigit hn, Option.isSome_some]
  simp only [hexByteUpper, hexByte, List.map_cons, List.map_nil, List.mem_cons, List.not_mem_nil,
    or_false] at h
  rcases h with rfl | rfl
  · exact hex (by omega)
  · exact hex (by omega)

end Text

/-! ## Lines -/

namespace Terminal

/-- What is there only in colour. -/
def inColor (colored : Bool) (t : Text) : Text := if colored then t else []

theorem paint_eq (colored : Bool) (ink : Ink) (t : Text) :
    paint colored ink t = inColor colored ink.code ++ (t ++ inColor colored reset) := by
  cases colored with
  | false => exact (List.append_nil t).symm
  | true => exact List.append_assoc _ _ _

end Terminal

namespace Program

theorem word_hexField (b : UInt8) : Text.Word (hexField b) where
  ne_nil := List.cons_ne_nil _ _
  marks := by
    intro c hc
    rcases List.mem_append.mp hc with hmem | hmem
    · have hsign : ∀ c ∈ "0x".toList, Text.isMark c = true := by decide
      exact hsign c hmem
    · exact Text.isMark_of_isHexDigit (Text.isHexDigit_of_mem_hexByteUpper hmem)

theorem word_text (c : Rgb) : Text.Word c.text where
  ne_nil := List.cons_ne_nil _ _
  marks := by
    intro d hd
    rcases List.mem_cons.mp hd with rfl | hmem
    · decide
    · obtain ⟨b, -, hb⟩ := List.mem_flatMap.mp hmem
      exact Text.isMark_of_isHexDigit (Text.isHexDigit_of_mem_hexByteUpper hb)

namespace ListingLine

/-- A label that fits its column and cannot be taken for a heading. -/
structure Label (t : Text) : Prop where
  fits : t.length ≤ labelWidth
  plain : ∀ c ∈ t, Text.isPlain c = true
  ne_nil : t ≠ []
  first : t.head? ≠ some '['

instance (t : Text) : Decidable (Label t) :=
  decidable_of_iff (t.length ≤ labelWidth ∧ (∀ c ∈ t, Text.isPlain c = true) ∧ t ≠ [] ∧
      t.head? ≠ some '[')
    ⟨fun h => ⟨h.1, h.2.1, h.2.2.1, h.2.2.2⟩, fun h => ⟨h.1, h.2, h.3, h.4⟩⟩

inductive Proper : ListingLine → Prop
  | heading {name : Text} (h : ∀ c ∈ name, Text.isPlain c = true) : Proper (.heading name)
  | field {label value : Text} (hlabel : Label label) (hvalue : Text.Word value) :
      Proper (.field label value none)
  | remarked {label value remark : Text} (hlabel : Label label) (hvalue : Text.Word value)
      (hremark : Text.Phrase remark) : Proper (.field label value (some remark))
  | color {label : Text} (hlabel : Label label) (value : Rgb) : Proper (.color label value)
  | blank : Proper .blank

def value? : ListingLine → Option Text
  | heading _ => none
  | field _ value _ => some value
  | color _ value => some value.text
  | blank => none

/-- The value that a line shows, if it is neither a heading nor blank. -/
def readValue? (colored : Bool) (line : Text) : Option Text :=
  line.head?.bind fun c =>
    if c = '[' ∨ c = Terminal.escape then none
    else
      let column := labelWidth + 1 + (Terminal.inColor colored Terminal.Ink.green.code).length
      some ((line.drop column).takeWhile Text.isMark)

/-- A label and the space after its column. -/
def column (label : Text) : Text := label.rightpad labelWidth ' ' ++ " ".toList

theorem length_column {label : Text} (h : Label label) : (column label).length = labelWidth + 1 := by
  have hfits := h.fits
  rw [column, List.length_append, List.length_rightpad, Nat.max_eq_left hfits]
  rfl

theorem isPlain_of_mem_column {label : Text} (h : Label label) {c : Char} (hc : c ∈ column label) :
    Text.isPlain c = true := by
  rw [column, List.rightpad, List.mem_append, List.mem_append] at hc
  rcases hc with (hmem | hmem) | hmem
  · exact h.plain c hmem
  · rw [List.eq_of_mem_replicate hmem]
    decide
  · rw [List.mem_singleton.mp hmem]
    decide

/-- A label, a painted value and what follows it. -/
def row (colored : Bool) (label value rest : Text) : Text :=
  column label ++ (Terminal.inColor colored Terminal.Ink.green.code ++
    (value ++ (Terminal.inColor colored Terminal.reset ++ rest)))

theorem row_eq (colored : Bool) (label value rest : Text) :
    label.rightpad labelWidth ' ' ++ " ".toList ++ Terminal.paint colored .green value ++ rest =
      row colored label value rest := by
  rw [row, column, Terminal.paint_eq, List.append_assoc _ _ rest, List.append_assoc _ _ rest,
    List.append_assoc _ _ rest]

/-- A value ends where a character follows that is no mark. -/
theorem readValue?_row (colored : Bool) {label value rest : Text} (hlabel : Label label)
    (hvalue : Text.Word value)
    (hrest : colored = false → ∀ c, rest.head? = some c → Text.isMark c = false) :
    readValue? colored (row colored label value rest) = some value := by
  have hfirst := List.head?_eq_some_head hlabel.ne_nil
  generalize label.head hlabel.ne_nil = c at hfirst
  have hbracket : c ≠ '[' := fun hc => hlabel.first (hfirst.trans (congrArg some hc))
  have hescape : c ≠ Terminal.escape := by
    intro hc
    have hplain := hlabel.plain c (List.mem_of_head? hfirst)
    rw [hc] at hplain
    exact absurd hplain (by decide)
  have hhead : (row colored label value rest).head? = some c := by
    rw [row, column, List.rightpad, List.append_assoc, List.append_assoc, List.head?_append, hfirst,
      Option.some_or]
  -- In colour the reset stands behind the value, and begins with an escape, which is no mark.
  have hstop : (Terminal.inColor colored Terminal.reset ++ rest).takeWhile Text.isMark = [] := by
    cases colored with
    | true => rfl
    | false =>
      show rest.takeWhile Text.isMark = []
      cases rest with
      | nil => rfl
      | cons d rest => rw [List.takeWhile_cons, hrest rfl d rfl, if_neg Bool.false_ne_true]
  rw [readValue?, hhead, Option.bind_some, if_neg (not_or.mpr ⟨hbracket, hescape⟩),
    ← length_column hlabel]
  simp only
  rw [row, ← List.length_append, ← List.append_assoc, List.drop_left,
    List.takeWhile_append_of_pos hvalue.marks, hstop, List.append_nil]

theorem readValue?_text (colored : Bool) {line : ListingLine} (h : Proper line) :
    readValue? colored (line.text colored) = line.value? := by
  cases h with
  | heading => cases colored <;> rfl
  | field hlabel hvalue =>
    rw [text, row_eq]
    apply readValue?_row colored hlabel hvalue
    rintro - c hc
    cases hc
  | remarked hlabel hvalue =>
    rw [text, row_eq]
    apply readValue?_row colored hlabel hvalue
    rintro rfl c hc
    obtain rfl : ' ' = c := Option.some.inj hc
    decide
  | color hlabel value =>
    rw [text, row_eq]
    apply readValue?_row colored hlabel (word_text value)
    rintro rfl c hc
    cases hc
  | blank => rfl

/-- Plain characters, and in colour also the one that begins a sequence for the terminal. -/
def isDrawn (colored : Bool) (c : Char) : Bool :=
  Text.isPlain c || (colored && c == Terminal.escape)

theorem isDrawn_of_isPlain (colored : Bool) {c : Char} (h : Text.isPlain c = true) :
    isDrawn colored c = true := by
  rw [isDrawn, h, Bool.true_or]

theorem isDrawn_of_isMark (colored : Bool) {c : Char} (h : Text.isMark c = true) :
    isDrawn colored c = true :=
  isDrawn_of_isPlain colored (Text.isPlain_of_isMark h)

theorem isDrawn_inColor (colored : Bool) {t : Text} (h : ∀ c ∈ t, isDrawn true c = true) :
    ∀ c ∈ Terminal.inColor colored t, isDrawn colored c = true := by
  cases colored with
  | false => exact fun c hc => absurd hc List.not_mem_nil
  | true => exact h

theorem isDrawn_code (ink : Terminal.Ink) : ∀ c ∈ ink.code, isDrawn true c = true := by
  cases ink <;> decide

theorem isDrawn_reset : ∀ c ∈ Terminal.reset, isDrawn true c = true := by decide

theorem isDrawn_paint (colored : Bool) (ink : Terminal.Ink) {t : Text}
    (h : ∀ c ∈ t, Text.isPlain c = true) :
    ∀ c ∈ Terminal.paint colored ink t, isDrawn colored c = true := by
  rw [Terminal.paint_eq]
  exact List.forall_mem_append.mpr ⟨isDrawn_inColor colored (isDrawn_code ink),
    List.forall_mem_append.mpr ⟨fun c hc => isDrawn_of_isPlain colored (h c hc),
      isDrawn_inColor colored isDrawn_reset⟩⟩

theorem isDrawn_swatch (colored : Bool) (value : Rgb) :
    ∀ c ∈ Terminal.swatch colored value, isDrawn colored c = true := by
  have hnumber (n : Nat) : ∀ c ∈ Text.ofNat n, isDrawn true c = true :=
    fun c hc => isDrawn_of_isMark true ((Text.word_ofNat n).marks c hc)
  apply isDrawn_inColor colored
  simp only [List.forall_mem_append]
  exact ⟨⟨⟨⟨⟨⟨⟨by decide, hnumber _⟩, by decide⟩, hnumber _⟩, by decide⟩, hnumber _⟩, by decide⟩,
    isDrawn_reset⟩

theorem isDrawn_row (colored : Bool) {label value rest : Text} (hlabel : Label label)
    (hvalue : Text.Word value) (hrest : ∀ c ∈ rest, isDrawn colored c = true) :
    ∀ c ∈ row colored label value rest, isDrawn colored c = true := by
  rw [row]
  simp only [List.forall_mem_append]
  exact ⟨fun c hc => isDrawn_of_isPlain colored (isPlain_of_mem_column hlabel hc),
    isDrawn_inColor colored (isDrawn_code .green),
    fun c hc => isDrawn_of_isMark colored (hvalue.marks c hc),
    isDrawn_inColor colored isDrawn_reset, hrest⟩

theorem isDrawn_text (colored : Bool) {line : ListingLine} (h : Proper line) :
    ∀ c ∈ line.text colored, isDrawn colored c = true := by
  cases h with
  | heading h =>
    apply isDrawn_paint
    simp only [List.forall_mem_append]
    exact ⟨⟨by decide, h⟩, by decide⟩
  | field hlabel hvalue =>
    rw [text, row_eq]
    exact isDrawn_row colored hlabel hvalue fun c hc => absurd hc List.not_mem_nil
  | remarked hlabel hvalue hremark =>
    rw [text, row_eq]
    apply isDrawn_row colored hlabel hvalue
    apply isDrawn_paint
    exact List.forall_mem_append.mpr ⟨by decide, hremark.plain⟩
  | color hlabel value =>
    rw [text, row_eq]
    apply isDrawn_row colored hlabel (word_text value)
    cases colored with
    | false => exact fun c hc => absurd hc List.not_mem_nil
    | true => exact List.forall_mem_append.mpr ⟨by decide, isDrawn_swatch true value⟩
  | blank => exact fun c hc => absurd hc List.not_mem_nil

theorem newline_notMem (colored : Bool) {line : ListingLine} (h : Proper line) :
    '\n' ∉ line.text colored := by
  intro hmem
  have hdrawn := isDrawn_text colored h '\n' hmem
  cases colored <;> exact absurd hdrawn (by decide)

end ListingLine

open ListingLine

theorem proper_paramLine {label : Text} (hlabel : Label label) (value : UInt8)
    (quantity : Option Quantity) : Proper (paramLine label value quantity) := by
  cases quantity with
  | none => exact .field hlabel (Text.word_ofNat _)
  | some q =>
    have hkey : Text.Word q.key := by cases q <;> decide
    exact .remarked hlabel (Text.word_ofNat _) hkey.phrase

theorem proper_headerLines (p : Program) : ∀ line ∈ headerLines p.header, Proper line := by
  have hmagic : Text.Word (p.header.magic.toList.map fun b => Char.ofNat b.toNat) := by
    show Text.Word (Header.expectedMagic.toList.map fun b => Char.ofNat b.toNat)
    decide
  simp only [headerLines, List.forall_mem_cons]
  exact ⟨.heading (by decide), .field (by decide) hmagic, .field (by decide) (Text.word_ofNat _),
    .field (by decide) (Text.word_ofNat _), .field (by decide) (word_hexField _),
    .field (by decide) (word_hexField _), fun line hline => absurd hline List.not_mem_nil⟩

theorem proper_coreLines (p : Program) : ∀ line ∈ p.coreLines, Proper line := by
  have hname : Text.Word p.effect.name := by cases p.effect <;> decide
  have hid : Text.Phrase ("id ".toList ++ hexField p.effect.id) :=
    .append (by decide) (word_hexField _).phrase
  have hdirection : Text.Phrase ("direction ".toList ++ p.directionName) := by
    have hword : Text.Word p.directionName := by
      rw [directionName]
      split <;> decide
    exact .append (by decide) hword.phrase
  have hmode : Text.Word (colorModeName p.colorMode) := by
    rw [colorModeName]
    split_ifs <;> decide
  simp only [coreLines, List.forall_mem_cons]
  exact ⟨.heading (by decide), .remarked (by decide) hname hid,
    .field (by decide) (Text.word_ofNat _), .field (by decide) (Text.word_ofNat _),
    proper_paramLine (by decide) _ _, proper_paramLine (by decide) _ _,
    proper_paramLine (by decide) _ _, .remarked (by decide) (Text.word_ofNat _) hdirection,
    .remarked (by decide) (Text.word_ofNat _) hmode.phrase,
    fun line hline => absurd hline List.not_mem_nil⟩

theorem proper_paletteLines {palette : List Rgb} {i : Nat} (h : i + palette.length ≤ maxPalette) :
    ∀ line ∈ paletteLines i palette, Proper line := by
  induction palette generalizing i with
  | nil => exact fun line hline => absurd hline List.not_mem_nil
  | cons c rest ih =>
    have hindex : ∀ i ∈ List.range maxPalette,
        Label ("  [".toList ++ Text.ofNat i ++ "]".toList) := by decide
    rw [List.length_cons] at h
    rw [paletteLines, List.forall_mem_cons]
    exact ⟨.color (hindex i (List.mem_range.mpr (by omega))) c, ih (by omega)⟩

theorem proper_listingLines (p : Program) : ∀ line ∈ p.listingLines, Proper line := by
  have hpalette : ∀ line ∈ paletteLines 0 p.palette, Proper line :=
    proper_paletteLines (by rw [Nat.zero_add]; exact p.palette_le)
  simp only [listingLines, colorLines, List.forall_mem_append, List.forall_mem_cons]
  exact ⟨⟨⟨⟨proper_headerLines p, .blank, by simp⟩, proper_coreLines p⟩, .blank, by simp⟩,
    ⟨.heading (by decide), .color (by decide) _, .color (by decide) _,
      .field (by decide) (Text.word_ofNat _), by simp⟩, hpalette⟩

theorem splitOn_listing (colored : Bool) (p : Program) :
    List.splitOn '\n' (p.listing colored) = p.listingLines.map (text colored) ++ [[]] := by
  have hlisting : p.listing colored =
      (p.listingLines.map (text colored)).flatMap fun line => line ++ ['\n'] := by
    rw [List.flatMap_map]
    rfl
  rw [hlisting]
  apply Text.splitOn_flatMap
  intro t ht
  obtain ⟨line, hline, rfl⟩ := List.mem_map.mp ht
  exact newline_notMem colored (proper_listingLines p line hline)

/-! ## The values of a listing -/

def readValues (colored : Bool) (t : Text) : List Text :=
  (t.splitOn '\n').filterMap (readValue? colored)

theorem readValues_listing (colored : Bool) (p : Program) :
    readValues colored (p.listing colored) = p.listingLines.filterMap value? := by
  rw [readValues, splitOn_listing, List.filterMap_append, List.filterMap_map,
    show [[]].filterMap (readValue? colored) = [] from rfl, List.append_nil]
  apply List.filterMap_congr
  intro line hline
  exact readValue?_text colored (proper_listingLines p line hline)

theorem filterMap_value?_paletteLines (i : Nat) (palette : List Rgb) :
    (paletteLines i palette).filterMap value? = palette.map Rgb.text := by
  induction palette generalizing i with
  | nil => rfl
  | cons c rest ih =>
    show c.text :: (paletteLines (i + 1) rest).filterMap value? = c.text :: rest.map Rgb.text
    rw [ih]

/-- Two programs alike in everything but their reserved bytes, the header with its checksum over them
included. -/
structure AlikeButReserved (p q : Program) : Prop where
  header : p.header = q.header
  effect : p.effect = q.effect
  brightness : p.brightness = q.brightness
  speed : p.speed = q.speed
  params : p.params = q.params
  colorMode : p.colorMode = q.colorMode
  primary : p.primary = q.primary
  secondary : p.secondary = q.secondary
  palette : p.palette = q.palette

theorem byte_of_ofNat {a b : UInt8} (h : Text.ofNat a.toNat = Text.ofNat b.toNat) : a = b :=
  UInt8.toNat_inj.mp (Text.ofNat_inj h)

theorem filterMap_hexField (b : UInt8) :
    (hexField b).filterMap Text.hexValue? = [0, b.toNat / 16, b.toNat % 16] := by
  have hlt := b.toNat_lt
  have hhigh : Text.hexValue? (Text.hexDigit (b.toNat / 16)).toUpper = some (b.toNat / 16) :=
    Text.hexValue?_toUpper_hexDigit (by omega)
  have hlow : Text.hexValue? (Text.hexDigit (b.toNat % 16)).toUpper = some (b.toNat % 16) :=
    Text.hexValue?_toUpper_hexDigit (by omega)
  show 0 :: ([_, _] : Text).filterMap Text.hexValue? = _
  rw [List.filterMap_cons_some hhigh, List.filterMap_cons_some hlow, List.filterMap_nil]

theorem byte_of_hexField {a b : UInt8} (h : hexField a = hexField b) : a = b := by
  have hdigits := congrArg (List.filterMap Text.hexValue?) h
  rw [filterMap_hexField, filterMap_hexField] at hdigits
  simp only [List.cons.injEq, and_true, true_and] at hdigits
  apply UInt8.toNat_inj.mp
  omega

theorem rgb_of_text {c d : Rgb} (h : c.text = d.text) : c = d := by
  have hread := Color.parse_text c
  rw [h, Color.parse_text] at hread
  exact (Except.ok.inj hread).symm

theorem effect_of_name {e f : Effect} (h : e.name = f.name) : e = f := by
  have hread := Effect.ofName?_name e
  rw [h, Effect.ofName?_name] at hread
  exact (Option.some.inj hread).symm

theorem alikeButReserved_of_values {p q : Program}
    (h : p.listingLines.filterMap value? = q.listingLines.filterMap value?) :
    AlikeButReserved p q := by
  simp only [listingLines, headerLines, coreLines, colorLines, paramLine, List.filterMap_cons,
    value?, filterMap_value?_paletteLines, List.cons_append, List.nil_append,
    List.cons.injEq] at h
  obtain ⟨-, -, hlength, hchecksum, hflags, heffect, hbrightness, hspeed, hfirst, hsecond, hthird,
    hfourth, hmode, hprimary, hsecondary, -, hpalette⟩ := h
  have hpayload : p.header.payloadLength = q.header.payloadLength :=
    UInt16.toNat_inj.mp (Text.ofNat_inj hlength)
  have hsum : p.header.checksum = q.header.checksum := byte_of_hexField hchecksum
  have hflag : p.flags = q.flags := byte_of_hexField hflags
  have hheader : p.header = q.header := by
    show Header.mk _ _ p.header.payloadLength p.header.checksum p.flags =
      Header.mk _ _ q.header.payloadLength q.header.checksum q.flags
    rw [hpayload, hsum, hflag]
    rfl
  have hparams : p.params = q.params := by
    show Slots.mk p.params.first p.params.second p.params.third p.params.fourth =
      Slots.mk q.params.first q.params.second q.params.third q.params.fourth
    rw [byte_of_ofNat hfirst, byte_of_ofNat hsecond, byte_of_ofNat hthird, byte_of_ofNat hfourth]
  exact ⟨hheader, effect_of_name heffect, byte_of_ofNat hbrightness, byte_of_ofNat hspeed, hparams,
    byte_of_ofNat hmode, rgb_of_text hprimary, rgb_of_text hsecondary,
    List.map_injective_iff.mpr (fun _ _ => rgb_of_text) hpalette⟩

theorem listingLines_of_alike {p q : Program} (h : AlikeButReserved p q) :
    p.listingLines = q.listingLines := by
  -- The name of the direction carries a decision on the parameters, so these are replaced in it first.
  have hdirection : p.directionName = q.directionName := by
    rw [directionName, direction, h.params]
    rfl
  simp only [listingLines, coreLines, colorLines, hdirection, h.header, h.effect, h.brightness,
    h.speed, h.params, h.colorMode, h.primary, h.secondary, h.palette]

/-- A listing shows everything but the reserved bytes. -/
theorem listing_eq_iff (colored : Bool) {p q : Program} :
    p.listing colored = q.listing colored ↔ AlikeButReserved p q := by
  constructor
  · intro h
    apply alikeButReserved_of_values
    rw [← readValues_listing colored p, h, readValues_listing]
  · intro h
    rw [listing, listingLines_of_alike h, listing]

/-! ## Where the reserved bytes are -/

/-- The bytes before the reserved ones. -/
def front (p : Program) : List UInt8 :=
  p.header.bytes ++ ([p.effect.id, p.brightness, p.speed] ++ p.params.toList ++ [p.colorMode])

/-- The bytes behind the reserved ones. -/
def back (p : Program) : List UInt8 :=
  p.primary.bytes ++ (p.secondary.bytes ++ (p.payload.count :: p.palette.flatMap Rgb.bytes))

theorem bytes_eq_front (p : Program) : p.bytes = p.front ++ (p.reserved.toList ++ p.back) := by
  simp only [bytes, Payload.bytes, front, back, payload, List.append_assoc, List.cons_append,
    List.nil_append]

theorem length_front (p : Program) : p.front.length = 16 := by
  rw [front, List.length_append, Header.length_bytes]
  rfl

theorem alikeButReserved_iff {p q : Program} :
    AlikeButReserved p q ↔ p.front = q.front ∧ p.back = q.back := by
  constructor
  · intro h
    constructor
    · rw [front, h.header, h.effect, h.brightness, h.speed, h.params, h.colorMode, front]
    · rw [back, payload, h.primary, h.secondary, h.palette, back, payload]
  · rintro ⟨hfront, hback⟩
    have hsplit := Header.split?_bytes_append p.header
      ([p.effect.id, p.brightness, p.speed] ++ p.params.toList ++ [p.colorMode])
    rw [← front, hfront, front, Header.split?_bytes_append] at hsplit
    obtain ⟨hheader, hcore⟩ := Prod.mk.inj (Option.some.inj hsplit)
    simp only [Slots.toList, List.cons_append, List.nil_append, List.cons.injEq, and_true] at hcore
    simp only [back, Rgb.bytes, List.cons_append, List.nil_append, List.cons.injEq] at hback
    obtain ⟨heffect, hbrightness, hspeed, hfirst, hsecond, hthird, hfourth, hmode⟩ := hcore
    obtain ⟨hred, hgreen, hblue, hred', hgreen', hblue', -, hbytes⟩ := hback
    have hid := Effect.ofId?_id p.effect
    rw [← heffect, Effect.ofId?_id, Option.some.injEq] at hid
    have hparams : p.params = q.params := by
      show Slots.mk p.params.first p.params.second p.params.third p.params.fourth = _
      rw [← hfirst, ← hsecond, ← hthird, ← hfourth]
    have hprimary : p.primary = q.primary := by
      show Rgb.mk p.primary.red p.primary.green p.primary.blue = _
      rw [hred, hgreen, hblue]
    have hsecondary : p.secondary = q.secondary := by
      show Rgb.mk p.secondary.red p.secondary.green p.secondary.blue = _
      rw [hred', hgreen', hblue']
    have hpalette := congrArg Rgb.ofBytes hbytes
    rw [Rgb.ofBytes_flatMap_bytes, Rgb.ofBytes_flatMap_bytes] at hpalette
    exact ⟨hheader.symm, hid.symm, hbrightness.symm, hspeed.symm, hparams, hmode.symm, hprimary,
      hsecondary, hpalette⟩

/-- Two lists that may differ in a middle part of the same length. -/
theorem agree_outside_iff {α : Type} {a b a' b' : List α} (ha : a.length = a'.length)
    (hb : b.length = b'.length) (c c' : List α) :
    ((a ++ (b ++ c)).length = (a' ++ (b' ++ c')).length ∧
      ∀ i, i < a.length ∨ a.length + b.length ≤ i →
        (a ++ (b ++ c))[i]? = (a' ++ (b' ++ c'))[i]?) ↔ a = a' ∧ c = c' := by
  have hbehind (x y z : List α) (i : Nat) :
      (x ++ (y ++ z))[x.length + y.length + i]? = z[i]? := by
    rw [List.getElem?_append_right (by omega), List.getElem?_append_right (by omega)]
    congr 1
    omega
  constructor
  · rintro ⟨-, hagree⟩
    constructor
    · apply List.ext_getElem?
      intro i
      by_cases hi : i < a.length
      · have h := hagree i (.inl hi)
        rwa [List.getElem?_append_left hi, List.getElem?_append_left (ha ▸ hi)] at h
      · rw [List.getElem?_eq_none (by omega), List.getElem?_eq_none (by omega)]
    · apply List.ext_getElem?
      intro i
      have h := hagree (a.length + b.length + i) (.inr (by omega))
      rwa [hbehind, ha, hb, hbehind] at h
  · rintro ⟨rfl, rfl⟩
    refine ⟨by simp only [List.length_append, hb], fun i hi => ?_⟩
    rcases hi with hi | hi
    · rw [List.getElem?_append_left hi, List.getElem?_append_left hi]
    · obtain ⟨k, rfl⟩ := Nat.exists_eq_add_of_le hi
      rw [hbehind, hb, hbehind]

theorem alikeButReserved_iff_bytes {p q : Program} : AlikeButReserved p q ↔
    p.bytes.length = q.bytes.length ∧ ∀ i, i < 16 ∨ 24 ≤ i → p.bytes[i]? = q.bytes[i]? := by
  have hfront : p.front.length = q.front.length := p.length_front.trans q.length_front.symm
  have hreserved : p.reserved.toList.length = q.reserved.toList.length := by
    rw [Vector.length_toList, Vector.length_toList]
  have h := agree_outside_iff hfront hreserved p.back q.back
  rw [← bytes_eq_front, ← bytes_eq_front, length_front, Vector.length_toList] at h
  rw [alikeButReserved_iff, ← h]

end Program

theorem listing_hides_reserved {b₁ b₂ : List UInt8} {p₁ p₂ : Program}
    (h₁ : Program.decode b₁ = .ok p₁) (h₂ : Program.decode b₂ = .ok p₂) (colored : Bool) :
    p₁.listing colored = p₂.listing colored ↔
      b₁.length = b₂.length ∧ ∀ i, i < 16 ∨ 23 < i → b₁[i]? = b₂[i]? := by
  rw [Program.listing_eq_iff, Program.alikeButReserved_iff_bytes, Program.bytes_of_decode h₁,
    Program.bytes_of_decode h₂]
  rfl

/-- A program with the given reserved bytes. -/
def cloaked (reserved : Vector UInt8 8) : Program where
  flags := 129
  effect := .pulse
  brightness := 0
  speed := 255
  params := ⟨7, 0, 9, 130⟩
  colorMode := 3
  reserved := reserved
  primary := ⟨1, 2, 3⟩
  secondary := ⟨250, 251, 252⟩
  palette := [⟨0, 0, 0⟩]
  palette_le := by decide

/-- Reserved bytes in another order do not show; others show in the checksum. -/
theorem listing_hides_reserved_cloaked :
    (cloaked #v[1, 2, 3, 4, 5, 6, 7, 8]).bytes ≠ (cloaked #v[8, 7, 6, 5, 4, 3, 2, 1]).bytes ∧
      (cloaked #v[1, 2, 3, 4, 5, 6, 7, 8]).listing true =
        (cloaked #v[8, 7, 6, 5, 4, 3, 2, 1]).listing true ∧
      (cloaked #v[1, 2, 3, 4, 5, 6, 7, 8]).listing false ≠
        (cloaked #v[1, 2, 3, 4, 5, 6, 7, 9]).listing false := by
  have hdecode (reserved : Vector UInt8 8) :
      Program.decode (cloaked reserved).bytes = .ok (cloaked reserved) := Program.decode_bytes _
  refine ⟨by decide, ?_, ?_⟩
  · apply (listing_hides_reserved (hdecode _) (hdecode _) true).mpr
    refine ⟨by decide, fun i hi => ?_⟩
    have hwithin : ∀ i ∈ List.range 34, i < 16 ∨ 23 < i →
        (cloaked #v[1, 2, 3, 4, 5, 6, 7, 8]).bytes[i]? =
          (cloaked #v[8, 7, 6, 5, 4, 3, 2, 1]).bytes[i]? := by decide
    by_cases hlt : i < 34
    · exact hwithin i (List.mem_range.mpr hlt) hi
    · rw [List.getElem?_eq_none (Nat.le_of_not_lt hlt),
        List.getElem?_eq_none (Nat.le_of_not_lt hlt)]
  · intro hsame
    have hchecksum := ((listing_hides_reserved (hdecode _) (hdecode _) false).mp hsame).2 6
    exact absurd (hchecksum (by decide)) (by decide)

end LedPattern
