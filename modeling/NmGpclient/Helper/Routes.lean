import NmGpclient.Helper.Values
import NmGpclient.Settings

/-!
# The routes of the helper

The server's split-tunnelling routes are numbered variables of the environment. Each number
contributes a route, or the mark of a default route, or nothing.
-/

namespace NmGpclient

/-- The environment of a process: what `getenv` answers. -/
abbrev Env := StrMap

/-- `getenv`. -/
def getenv (env : Env) (name : CStr) : Option CStr := env.lookup name

/-- A `long` as a `guint32`. -/
def toUInt32 (n : Int) : Nat := (n % 4294967296).toNat

/-- `atoi`: the `long` of `strtol` as an `int`. -/
def atoi (s : CStr) : Int := (strtol s).value.bmod 4294967296

/-- What one number of the routes contributes. -/
inductive Include (α : Type) where
  | ignored
  | defaultRoute
  | route (r : α)
deriving DecidableEq, Repr

/-- The loop over the numbers up to a count: the routes in order, and the default-route mark, which
is set and never cleared. -/
def includeLoop {α : Type} (contribution : Nat → Include α) (num : Int) (defaultroute : Bool) :
    List α × Bool :=
  (List.range num.toNat).foldl (fun (routes, marked) i =>
    match contribution i with
    | .ignored => (routes, marked)
    | .defaultRoute => (routes, true)
    | .route r => (routes ++ [r], marked)) ([], defaultroute)

section
variable (env : Env) (libs : HelperLibs)

/-- The variable of a number: `PREFIX_NUMBER_FIELD`. -/
def includeVariable (family : String) (i : Nat) (field : String) : Option CStr :=
  getenv env (cstr family ++ decimal i ++ cstr field)

/-- A prefix length as the loops read it: an error of `strtol` and a number out of range are none. -/
def prefixLength (s : CStr) (bound : Int) : Option Nat :=
  let n := strtol s
  if n.erange || n.value < 0 || bound < n.value then none else some (toUInt32 n.value)

/-- The prefix length of an IPv4 route: `MASKLEN`, or the netmask without it. -/
def ip4IncludePrefix (i : Nat) : Option Nat :=
  match includeVariable env "CISCO_SPLIT_INC_" i "_MASKLEN" with
  | some tmp => prefixLength tmp 32
  | none => do
    let netmask ← inetPton4 (← includeVariable env "CISCO_SPLIT_INC_" i "_MASK")
    some (libs.ip4NetmaskToPrefix (sAddr netmask))

/-- What a number contributes to the IPv4 routes: the network, the prefix, no next hop, and a metric
of 0. -/
def ip4Include (i : Nat) : Include (List Nat) :=
  match (includeVariable env "CISCO_SPLIT_INC_" i "_ADDR").bind inetPton4 with
  | none => .ignored
  | some network =>
    match ip4IncludePrefix env libs i with
    | none => .ignored
    | some 0 => .defaultRoute
    | some prefixLen => .route [sAddr network, prefixLen, 0, 0]

/-- The count of a family's routes; none when it is empty or 0. -/
def includeCount (name : String) : Option Int :=
  match nonempty (getenv env (cstr name)) with
  | none => none
  | some tmp => if atoi tmp = 0 then none else some (atoi tmp)

/-- `get_ip4_routes`, with the mark of the caller. -/
def getIp4Routes (defaultroute : Bool) : Glib (Option GVariant × Bool) :=
  match includeCount env "CISCO_SPLIT_INC" with
  | none => pure (none, defaultroute)
  | some num => do
    let (routes, defaultroute) := includeLoop (ip4Include env libs) num defaultroute
    Glib.call (.builderEnd true routes.length) ()
    if routes = [] then
      Glib.call (.variantUnref false) ()
      pure (none, defaultroute)
    else pure (some (.uint32Arrays routes), defaultroute)

/-- What a number contributes to the IPv6 routes. -/
def ip6Include (i : Nat) : Include NMIPRoute :=
  match includeVariable env "CISCO_IPV6_SPLIT_INC_" i "_ADDR" with
  | none => .ignored
  | some network =>
    match (includeVariable env "CISCO_IPV6_SPLIT_INC_" i "_MASKLEN").bind (prefixLength · 128) with
    | none => .ignored
    | some 0 => .defaultRoute
    | some prefixLen =>
      match libs.ipRouteNew network prefixLen with
      | none => .ignored
      | some route => .route route

/-- `get_ip6_routes`, with the mark of the caller; the array reserves the count as a `guint`. -/
def getIp6Routes (defaultroute : Bool) : Glib (Option GVariant × Bool) :=
  match includeCount env "CISCO_IPV6_SPLIT_INC" with
  | none => pure (none, defaultroute)
  | some num => do
    Glib.call (.ptrArrayNew (toUInt32 num)) ()
    let (routes, defaultroute) := includeLoop (ip6Include env libs) num defaultroute
    pure (if routes = [] then none else some (.ip6Routes routes), defaultroute)

end

end NmGpclient
