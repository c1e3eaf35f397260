import NmGpclient.Lib.Inet
import NmGpclient.Lib.Posix

/-!
# The values of the helper

The helper turns texts of its environment into `GVariant` values. The conversions call GLib
functions that document what they expect of their arguments; a conversion's result is its value
together with those calls, which the code does not keep.
-/

namespace NmGpclient

/-! ## GLib -/

/-- An IPv6 route of libnm, with its destination and prefix. -/
structure NMIPRoute where
  dest : CStr
  prefixLen : Nat
deriving DecidableEq, Repr

/-- The values the helper builds. -/
inductive GVariant where
  | boolean (b : Bool)
  | uint32 (n : Nat)
  | string (s : CStr)
  | bytes (bs : List UInt8)
  | uint32s (ns : List Nat)
  | strings (ss : List CStr)
  | byteArrays (bss : List (List UInt8))
  | uint32Arrays (nss : List (List Nat))
  | ip6Routes (routes : List NMIPRoute)
deriving DecidableEq, Repr

/-- A GLib call with what its documentation speaks of: the string of `g_variant_new_string` and the
strings of `g_variant_new_strv`, the source of `g_convert`, whether the type of a builder that ends
is definite and how many children it has, whether a value that is unreferenced is there, and the
size a new array reserves. -/
inductive GlibCall where
  | variantNewString (s : CStr)
  | variantNewStrv (strv : List CStr)
  | convert (str : Option CStr)
  | builderEnd (definite : Bool) (children : Nat)
  | variantUnref (isNull : Bool)
  | ptrArrayNew (reserved : Nat)
deriving DecidableEq, Repr

/-- A value with the GLib calls that were made for it. -/
structure Glib (α : Type) where
  value : α
  calls : List GlibCall

instance : Monad Glib where
  pure a := ⟨a, []⟩
  bind x f := ⟨(f x.value).value, x.calls ++ (f x.value).calls⟩

/-- A GLib call with its value. -/
def Glib.call {α : Type} (c : GlibCall) (value : α) : Glib α := ⟨value, [c]⟩

/-- What the helper uses of other libraries: the conversion of `g_convert` between two character
sets, the prefix length of a netmask, and libnm's check of an IPv6 route. -/
structure HelperLibs where
  gConvert : (toCodeset fromCodeset : CStr) → CStr → Option CStr
  ip4NetmaskToPrefix : Nat → Nat
  ipRouteNew : CStr → Nat → Option NMIPRoute

/-- `g_utf8_validate`. -/
def utf8Validate (s : CStr) : Bool := ByteArray.validateUTF8 ⟨s.toArray⟩

/-- `g_variant_new_string`, which makes no value of a string that is not UTF-8. -/
def gVariantNewString (s : CStr) : Glib (Option GVariant) :=
  .call (.variantNewString s) (if utf8Validate s then some (.string s) else none)

/-- `g_variant_builder_end` for an array of numbers, whose type is indefinite: without a child there
is no value. -/
def gVariantBuilderEnd (ns : List Nat) : Glib (Option GVariant) :=
  .call (.builderEnd false ns.length) (if ns = [] then none else some (.uint32s ns))

/-- `g_convert`. -/
def gConvert (libs : HelperLibs) (str : Option CStr) (toCodeset fromCodeset : String) :
    Glib (Option CStr) :=
  .call (.convert str) (str.bind (libs.gConvert (cstr toCodeset) (cstr fromCodeset)))

/-! ## Texts -/

/-- `str_to_gvariant`; the second conversion is of what the first one left. -/
def strToGvariant (libs : HelperLibs) (str : Option CStr) (tryConvert : Bool) :
    Glib (Option GVariant) :=
  match nonempty str with
  | none => pure none
  | some s =>
    if utf8Validate s then gVariantNewString s
    else do
      let str ←
        if tryConvert then do
          match ← gConvert libs (some s) "ISO-8859-1" "UTF-8" with
          | some converted => pure (some converted)
          | none => gConvert libs none "C" "UTF-8"
        else pure (some s)
      match str with
      | none => pure none
      | some s => gVariantNewString s

/-! ## Addresses -/

/-- `in_addr.s_addr` on a little-endian machine. -/
def sAddr (addr : List UInt8) : Nat := addr.foldr (fun b n => b.toNat + 256 * n) 0

/-- `addr4_to_gvariant`. -/
def addr4ToGvariant (str : Option CStr) : Option GVariant := do
  let addr ← inetPton4 (← nonempty str)
  some (.uint32 (sAddr addr))

/-- `addr6_to_gvariant`. -/
def addr6ToGvariant (str : Option CStr) : Option GVariant := do
  let addr ← inetPton6 (← nonempty str)
  some (.bytes addr)

@[simp] theorem addr4ToGvariant_none : addr4ToGvariant none = none := rfl

@[simp] theorem addr6ToGvariant_none : addr6ToGvariant none = none := rfl

/-- The empty text is no address, so its check changes nothing. -/
@[simp] theorem isSome_addr4ToGvariant (s : CStr) :
    (addr4ToGvariant (some s)).isSome = (inetPton4 s).isSome := by
  cases s with
  | nil => rfl
  | cons b s => cases h : inetPton4 (b :: s) <;> simp [addr4ToGvariant, h]

@[simp] theorem isSome_addr6ToGvariant (s : CStr) :
    (addr6ToGvariant (some s)).isSome = (inetPton6 s).isSome := by
  cases s with
  | nil => rfl
  | cons b s => cases h : inetPton6 (b :: s) <;> simp [addr6ToGvariant, h]

/-- The loop of `addr4_list_to_gvariant` over the parts, with the numbers in the builder. -/
def addr4ListLoop : List CStr → List Nat → Glib (Option GVariant)
  | [], ns => gVariantBuilderEnd ns
  | part :: parts, ns =>
    match inetPton4 part with
    | some addr => addr4ListLoop parts (ns ++ [sAddr addr])
    | none => do
      let value ← gVariantBuilderEnd ns
      .call (.variantUnref value.isNone) none

/-- `addr4_list_to_gvariant`. -/
def addr4ListToGvariant (str : Option CStr) : Glib (Option GVariant) :=
  match nonempty str with
  | none => pure none
  | some s =>
    let split := gStrsplit s 32
    if split.length = 0 then pure none else addr4ListLoop split []

/-- The loop of `addr46_list_to_gvariant` over the parts; a builder is there once it has a child. -/
def addr46ListLoop : List CStr → List Nat → List (List UInt8) → Option (List Nat × List (List UInt8))
  | [], legacy, ipv6 => some (legacy, ipv6)
  | part :: parts, legacy, ipv6 =>
    match inetPton4 part with
    | some addr => addr46ListLoop parts (legacy ++ [sAddr addr]) ipv6
    | none =>
      -- `addr6_to_gvariant`; the empty part is not an address either
      match inetPton6 part with
      | some addr => addr46ListLoop parts legacy (ipv6 ++ [addr])
      | none => none

/-- The value of a builder that is there when it has a child. -/
def endBuilder {α : Type} (definite : Bool) (value : List α → GVariant) (children : List α) :
    Glib (Option GVariant) :=
  if children = [] then pure none
  else .call (.builderEnd definite children.length) (some (value children))

/-- `addr46_list_to_gvariant`: the lists of both families. -/
def addr46ListToGvariant (str : Option CStr) : Glib (Option GVariant × Option GVariant) :=
  match nonempty str with
  | none => pure (none, none)
  | some s =>
    match addr46ListLoop (gStrsplit s 32) [] [] with
    | none => pure (none, none)
    | some (legacy, ipv6) => do
      let legacy ← endBuilder false .uint32s legacy
      let ipv6 ← endBuilder true .byteArrays ipv6
      pure (legacy, ipv6)

/-! ## Domains -/

/-- The loop that eliminates empty strings: the vector with its terminator, the strings freed, and
the two indices. -/
structure Compaction where
  split : List (Option CStr)
  freed : List CStr
  i : Nat
  j : Nat
deriving DecidableEq, Repr

/-- The body of the loop, for the string at `i`. -/
def Compaction.step (c : Compaction) (token : CStr) : Compaction :=
  if token ≠ [] then
    let split := if c.j ≠ c.i then (c.split.set c.j (some token)).set c.i none else c.split
    { c with split := split, j := c.j + 1, i := c.i + 1 }
  else { c with split := c.split.set c.i none, freed := c.freed ++ [token], i := c.i + 1 }

/-- The loop, up to the terminator; the vector is long enough for the fuel. -/
def Compaction.loop : Nat → Compaction → Compaction
  | 0, c => c
  | fuel + 1, c =>
    match c.split[c.i]? with
    | some (some token) => loop fuel (c.step token)
    | _ => c

/-- The loop over the parts of a text. -/
def compact (split : List CStr) : Compaction :=
  Compaction.loop split.length ⟨split.map some ++ [none], [], 0, 0⟩

/-- `g_variant_new_strv`, up to the terminator, which makes no value of strings of which one is not
UTF-8. -/
def gVariantNewStrv (strv : List (Option CStr)) : Glib (Option GVariant) :=
  let strings := (strv.takeWhile Option.isSome).filterMap id
  .call (.variantNewStrv strings)
    (if strings.all utf8Validate then some (.strings strings) else none)

/-- `split_dns_list_to_gvariant`. -/
def splitDnsListToGvariant (str : Option CStr) : Glib (Option GVariant) :=
  match nonempty str with
  | none => pure none
  | some s =>
    let c := compact (gStrsplitSet s (cstr ", "))
    if c.j ≠ 0 then gVariantNewStrv c.split else pure none

example : (splitDnsListToGvariant (some (cstr "a, b"))).value = some (.strings [[97], [98]]) := by
  decide +kernel

end NmGpclient
