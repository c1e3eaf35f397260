import NmGpclient.Helper.Values

/-!
# Texts that are not UTF-8

`str_to_gvariant` converts a text that is not UTF-8, as a server's banner in ISO-8859-1 is not. It
asks `g_convert` for the conversion to ISO-8859-1 from UTF-8, the wrong way round, which fails for
each such text, and then hands `g_convert` the null pointer that the first call left.
-/

namespace NmGpclient

/-- The UTF-8 encoding of a text read as ISO-8859-1, where a byte is the character of its number. -/
def latin1ToUtf8 (s : CStr) : CStr := cstr (String.ofList (s.map fun b => Char.ofNat b.toNat))

/-- The ISO-8859-1 encoding of a text read as UTF-8; none for what is not UTF-8, or has a character
above 255. -/
def utf8ToLatin1 (s : CStr) : Option CStr :=
  (String.fromUTF8? ⟨s.toArray⟩).bind fun text =>
    if text.toList.all fun c => c.toNat < 256 then
      some (text.toList.map fun c => UInt8.ofNat c.toNat)
    else none

/-- `g_convert` converts to its first character set from its second one, and fails for a text that
is not of the second or that the first cannot represent. -/
structure GConvertSpec (libs : HelperLibs) : Prop where
  fromUtf8 : ∀ s, libs.gConvert (cstr "ISO-8859-1") (cstr "UTF-8") s = utf8ToLatin1 s
  toUtf8 : ∀ s, libs.gConvert (cstr "UTF-8") (cstr "ISO-8859-1") s = some (latin1ToUtf8 s)

/-- A string is UTF-8. -/
theorem utf8Validate_cstr (s : String) : utf8Validate (cstr s) = true := by
  unfold utf8Validate cstr
  rw [ByteArray.validateUTF8_eq_true_iff]
  exact s.isValidUTF8

theorem utf8ToLatin1_of_invalid {s : CStr} (h : utf8Validate s = false) :
    utf8ToLatin1 s = none := by
  have hinvalid : ¬ByteArray.IsValidUTF8 ⟨s.toArray⟩ := by
    rw [← ByteArray.validateUTF8_eq_true_iff]
    simpa [utf8Validate] using h
  unfold utf8ToLatin1 String.fromUTF8?
  rw [dif_neg hinvalid]
  rfl

/-- Where nothing is converted, or the text is UTF-8, the text is the value, if GLib takes it. -/
theorem strToGvariant_of_valid (libs : HelperLibs) {s : CStr} (hne : s ≠ [])
    (h : utf8Validate s = true) (tryConvert : Bool) :
    strToGvariant libs (some s) tryConvert = gVariantNewString s := by
  unfold strToGvariant
  rw [nonempty_some_of_ne hne]
  simp [h]

/-- A text that is not UTF-8 is not converted: both calls fail, the second one on a null pointer. -/
theorem strToGvariant_of_invalid {libs : HelperLibs} (hlibs : GConvertSpec libs) {s : CStr}
    (h : utf8Validate s = false) :
    strToGvariant libs (some s) true = ⟨none, [.convert (some s), .convert none]⟩ := by
  have hne : s ≠ [] := by
    rintro rfl
    exact absurd h (by decide +kernel)
  unfold strToGvariant
  rw [nonempty_some_of_ne hne]
  simp [h, gConvert, Glib.call, Bind.bind, Pure.pure, hlibs.fromUtf8, utf8ToLatin1_of_invalid h]

/-- A text is converted exactly when it needs no conversion.

For a text that is not empty, and `g_convert` as GLib documents it: the text stays as it is when it
is UTF-8 and becomes its encoding as ISO-8859-1 otherwise, if and only if it is UTF-8. -/
theorem strToGvariant_converts_iff (libs : HelperLibs) (hlibs : GConvertSpec libs) (s : CStr)
    (hne : s ≠ []) :
    (strToGvariant libs (some s) true).value =
        some (.string (if utf8Validate s then s else latin1ToUtf8 s)) ↔
      utf8Validate s = true := by
  cases h : utf8Validate s with
  | true =>
    rw [strToGvariant_of_valid libs hne h]
    simp [gVariantNewString, Glib.call, h]
  | false =>
    rw [strToGvariant_of_invalid hlibs h]
    simp

/-- GLib's conversions between the two character sets. -/
def glibLibs : HelperLibs where
  gConvert toCodeset fromCodeset s :=
    if toCodeset = cstr "ISO-8859-1" ∧ fromCodeset = cstr "UTF-8" then utf8ToLatin1 s
    else if toCodeset = cstr "UTF-8" ∧ fromCodeset = cstr "ISO-8859-1" then some (latin1ToUtf8 s)
    else none
  ip4NetmaskToPrefix _ := 24
  ipRouteNew dest prefixLen :=
    if (inetPton6 dest).isSome = true ∧ prefixLen ≤ 128 then some ⟨dest, prefixLen⟩ else none

theorem glibLibs_gConvert : GConvertSpec glibLibs where
  fromUtf8 s := by simp [glibLibs]
  toUtf8 s := by
    have hother : ¬(cstr "UTF-8" = cstr "ISO-8859-1" ∧ cstr "ISO-8859-1" = cstr "UTF-8") := by
      decide +kernel
    simp [glibLibs, hother]

theorem glibLibs_ipRouteNew (dest : CStr) (prefixLen : Nat) :
    (glibLibs.ipRouteNew dest prefixLen).isSome = true ↔
      (inetPton6 dest).isSome = true ∧ prefixLen ≤ 128 := by
  unfold glibLibs
  dsimp only
  split
  next h => simpa using h
  next h => simpa using h

theorem strToGvariant_converts_ascii :
    (strToGvariant glibLibs (some (cstr "Welcome")) true).value =
        some (.string (if utf8Validate (cstr "Welcome") then cstr "Welcome"
          else latin1ToUtf8 (cstr "Welcome"))) ↔
      utf8Validate (cstr "Welcome") = true :=
  strToGvariant_converts_iff glibLibs glibLibs_gConvert (cstr "Welcome") (by decide +kernel)

/-- The word "é" in ISO-8859-1 is lost. -/
theorem latin1_lost : utf8Validate [233] = false ∧
    (strToGvariant glibLibs (some [233]) true).value = none ∧ latin1ToUtf8 [233] = cstr "é" := by
  decide +kernel

end NmGpclient
