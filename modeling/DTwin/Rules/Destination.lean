import DTwin.Lib.Inet
import Mathlib.Data.Int.Notation

/-!
# DTwin.Rules.Destination — where a webhook may be sent

`apps/ingest/src/rules/destination.ts`.  `isIP` and the block lists of `node:net` are those of
`DTwin.Lib.Inet`; `new URL` is a parameter.  The resolver is any function of what it has been asked
before and what it is asked now, and `checkDestination` hands on the list of what has been asked.  What
`node:http` may do with the `lookup` of a request is to call it, with any options.

`webhook_pinned` follows a check and the request after it.
-/

namespace DTwin.Destination

open Inet

/-! ## The ranges -/

structure Range where
  cidr : String
  label : String

/-- RFC 6890 special-purpose space, plus what a cloud host should never call. -/
def blockedV4 : List Range :=
  [⟨"0.0.0.0/8", "this-network"⟩, ⟨"10.0.0.0/8", "private"⟩, ⟨"100.64.0.0/10", "carrier-grade NAT"⟩,
    ⟨"127.0.0.0/8", "loopback"⟩, ⟨"169.254.0.0/16", "link-local"⟩, ⟨"172.16.0.0/12", "private"⟩,
    ⟨"192.0.0.0/24", "IETF protocol assignments"⟩, ⟨"192.0.2.0/24", "documentation"⟩,
    ⟨"192.168.0.0/16", "private"⟩, ⟨"198.18.0.0/15", "benchmarking"⟩,
    ⟨"198.51.100.0/24", "documentation"⟩, ⟨"203.0.113.0/24", "documentation"⟩,
    ⟨"224.0.0.0/4", "multicast"⟩, ⟨"240.0.0.0/4", "reserved"⟩]

def blockedV6 : List Range :=
  [⟨"::/128", "unspecified"⟩, ⟨"::1/128", "loopback"⟩, ⟨"64:ff9b::/96", "NAT64"⟩,
    ⟨"100::/64", "discard-only"⟩, ⟨"2001:db8::/32", "documentation"⟩, ⟨"fc00::/7", "unique-local"⟩,
    ⟨"fe80::/10", "link-local"⟩, ⟨"ff00::/8", "multicast"⟩]

def blocked : Family → List Range
  | .ipv4 => blockedV4
  | .ipv6 => blockedV6

/-- `BlockList.addSubnet` with the range, then `check` of the address. -/
def Range.check (r : Range) (family : Family) (address : List Char) : Bool :=
  match r.cidr.toList.splitOn '/' with
  | [net, bits] =>
    match family.value? net, number? 10 digit? bits, family.value? address with
    | some net, some bits, some value => inSubnet family.width bits net value
    | _, _, _ => false
  | _ => false

/-- The label of the first range of its family that holds the address. -/
def listed (family : Family) (address : List Char) : Option String :=
  ((blocked family).find? fun r => r.check family address).map (·.label)

/-! ## The verdict -/

/-- The text after `::ffff:`, in any case. -/
def afterMapped? : List Char → Option (List Char)
  | ':' :: ':' :: a :: b :: c :: d :: ':' :: s =>
    if [a, b, c, d].all fun x => x == 'f' || x == 'F' then some s else none
  | _ => none

/-- `MAPPED_DOTTED`: four parts of one to three digits. -/
def mappedDotted? (address : List Char) : Option (List Char) :=
  (afterMapped? address).filter fun s =>
    let parts := s.splitOn '.'
    parts.length == 4 && parts.all fun p => p != [] && p.length ≤ 3 && p.all Char.isDigit

/-- `MAPPED_HEX`: two parts of one to four hexadecimal digits, as numbers. -/
def mappedHex? (address : List Char) : Option (ℕ × ℕ) :=
  (afterMapped? address).bind fun s =>
    match s.splitOn ':' with
    | [hi, lo] => (group? hi).bind fun hi => (group? lo).map fun lo => (hi, lo)
    | _ => none

/-- The dotted quad of two 16-bit groups. -/
def dotted (hi lo : ℕ) : List Char :=
  s!"{hi / 256}.{hi % 256}.{lo / 256}.{lo % 256}".toList

/-- The last two statements of `blockedReason`. -/
def judged (address : List Char) : Option String :=
  match isIP address with
  | none => some "not an IP address"
  | some family => listed family address

/-- Why an address must not be contacted, `none` if it may be.  The recursive calls of the source are on
dotted quads, which are not of family 6, so one unfolding of them is `judged`. -/
def blockedReason (address : String) : Option String :=
  let address := address.toList
  if isIP address = some .ipv6 then
    match mappedDotted? address with
    | some quad => judged quad
    | none =>
      match mappedHex? address with
      | some (hi, lo) => judged (dotted hi lo)
      | none => judged address
  else judged address

/-! ## The check -/

structure ResolvedAddress where
  address : String
  family : Family
deriving DecidableEq

/-- The parts of a `URL` the module reads. -/
structure Url where
  protocol : String
  username : String
  password : String
  hostname : String
  port : String
  pathname : String
  search : String

/-- `new URL(rawUrl)`: `none` when it throws. -/
abbrev ParseUrl := String → Option Url

/-- A resolver: given what it has been asked before, it answers a name with addresses, or throws. -/
abbrev Resolver := List String → String → Except String (List ResolvedAddress)

inductive DestinationCheck
  | ok (url : Url) (addresses : List ResolvedAddress)
  | refused (reason : String)

/-- `hostname.replace(/^\[|\]$/g, '')`. -/
def bareHost (hostname : String) : String :=
  let s := hostname.toList
  let s := if s.head? = some '[' then s.tail else s
  String.ofList (if s.getLast? = some ']' then s.dropLast else s)

/-- The first of the addresses that is blocked, and why. -/
def firstBlocked (addresses : List ResolvedAddress) : Option (String × String) :=
  addresses.findSome? fun a => (blockedReason a.address).map fun reason => (a.address, reason)

/-- The verdict on the addresses a destination has. -/
def judgeAll (allowPrivate : Bool) (url : Url) (addresses : List ResolvedAddress) : DestinationCheck :=
  match allowPrivate, firstBlocked addresses with
  | false, some (address, reason) =>
    .refused s!"resolves to a private or reserved address ({address}, {reason})"
  | _, _ => .ok url addresses

/-- Decide whether a webhook URL may be requested, and resolve it once.  `asked` is what the resolver has
been asked so far. -/
def checkDestination (parseUrl : ParseUrl) (rawUrl : String) (allowPrivate : Bool) (resolve : Resolver)
    (asked : List String) : DestinationCheck × List String :=
  match parseUrl rawUrl with
  | none => (.refused "not a valid URL", asked)
  | some url =>
    if url.protocol ≠ "http:" ∧ url.protocol ≠ "https:" then
      (.refused s!"unsupported protocol {url.protocol}", asked)
    else if url.username ≠ "" ∨ url.password ≠ "" then
      (.refused "credentials in the URL are not accepted", asked)
    else
      let host := bareHost url.hostname
      match isIP host.toList with
      | some literal => (judgeAll allowPrivate url [⟨host, literal⟩], asked)
      | none =>
        match resolve asked host with
        | .error message => (.refused s!"DNS lookup failed: {message}", asked ++ [host])
        | .ok [] => (.refused "DNS lookup returned no addresses", asked ++ [host])
        | .ok addresses => (judgeAll allowPrivate url addresses, asked ++ [host])

/-! ## The request -/

/-- `options.family`: a number, or `IPv4` or `IPv6`. -/
inductive FamilyOption
  | number (n : ℕ)
  | name (s : String)
deriving DecidableEq

/-- What the socket layer passes to a `lookup`: a family, or an object. -/
inductive LookupOptions
  | family (n : ℕ)
  | object (family : Option FamilyOption) (all : Bool)

/-- What a `lookup` calls back with. -/
inductive LookupAnswer
  | all (addresses : List ResolvedAddress)
  | one (address : ResolvedAddress)

def LookupAnswer.addresses : LookupAnswer → List ResolvedAddress
  | all addresses => addresses
  | one address => [address]

def Family.number : Family → ℕ
  | .ipv4 => 4
  | .ipv6 => 6

/-- `options.family` when it is an object with one that is not falsy, else 0. -/
def LookupOptions.wanted : LookupOptions → FamilyOption
  | object (some f) _ => if f = .name "" then .number 0 else f
  | _ => .number 0

def LookupOptions.wantsAll : LookupOptions → Bool
  | object _ all => all
  | family _ => false

/-- A `lookup` that answers only with addresses already judged; `none` when `pool[0]` is missing. -/
def pinnedLookup (addresses : List ResolvedAddress) (options : LookupOptions) : Option LookupAnswer :=
  let wanted := options.wanted
  let usable := addresses.filter fun a =>
    wanted = .number 0 || FamilyOption.number (Family.number a.family) = wanted
  let pool := if usable ≠ [] then usable else addresses
  if options.wantsAll then some (.all pool) else pool.head?.map .one

/-- What `postPinned` hands to `node:http`. -/
structure Request where
  secure : Bool
  protocol : String
  hostname : String
  port : Option String
  path : String
  contentLength : ℕ
  lookup : LookupOptions → Option LookupAnswer
  timeoutMs : ℤ
  body : String

def postPinned (url : Url) (addresses : List ResolvedAddress) (body : String) (timeoutMs : ℤ) : Request where
  secure := url.protocol == "https:"
  protocol := url.protocol
  hostname := bareHost url.hostname
  port := if url.port = "" then none else some url.port
  path := url.pathname ++ url.search
  contentLength := body.utf8ByteSize
  lookup := pinnedLookup addresses
  timeoutMs := timeoutMs
  body := body

/-- The check and the request of `#deliverWebhook`; the request is `none` when the check refuses. -/
def checkAndSend (parseUrl : ParseUrl) (rawUrl : String) (allowPrivate : Bool) (body : String)
    (timeoutMs : ℤ) (resolve : Resolver) : Option Request × List String :=
  match checkDestination parseUrl rawUrl allowPrivate resolve [] with
  | (.ok url addresses, asked) => (some (postPinned url addresses body timeoutMs), asked)
  | (.refused _, asked) => (none, asked)

/-! ## The pin -/

theorem firstBlocked_eq_none_iff {addresses : List ResolvedAddress} :
    firstBlocked addresses = none ↔ ∀ a ∈ addresses, blockedReason a.address = none := by
  simp [firstBlocked, List.findSome?_eq_none_iff]

theorem judgeAll_ok {url url' : Url} {addresses addresses' : List ResolvedAddress}
    (h : judgeAll false url addresses = .ok url' addresses') :
    url' = url ∧ addresses' = addresses ∧ ∀ a ∈ addresses, blockedReason a.address = none := by
  unfold judgeAll at h
  cases hb : firstBlocked addresses with
  | some p =>
    rw [hb] at h
    cases h
  | none =>
    rw [hb] at h
    cases h
    exact ⟨rfl, rfl, firstBlocked_eq_none_iff.mp hb⟩

/-- What the check lets through: addresses that are not blocked, and a literal host among them. -/
theorem checkDestination_ok {parseUrl : ParseUrl} {rawUrl : String} {resolve : Resolver}
    {asked asked' : List String} {url : Url} {addresses : List ResolvedAddress}
    (h : checkDestination parseUrl rawUrl false resolve asked = (.ok url addresses, asked')) :
    addresses ≠ [] ∧ (∀ a ∈ addresses, blockedReason a.address = none) ∧
      ((isIP (bareHost url.hostname).toList).isSome → blockedReason (bareHost url.hostname) = none) := by
  unfold checkDestination at h
  split at h
  · cases h
  · rename_i parsed _
    split_ifs at h
    · cases h
    · cases h
    · dsimp only at h
      split at h
      · rename_i literal _
        obtain ⟨rfl, rfl, hall⟩ := judgeAll_ok (Prod.mk.inj h).1
        exact ⟨by simp, hall, fun _ => hall ⟨_, literal⟩ List.mem_cons_self⟩
      · rename_i hname
        split at h
        · cases h
        · cases h
        · rename_i found hne _
          obtain ⟨rfl, rfl, hall⟩ := judgeAll_ok (Prod.mk.inj h).1
          refine ⟨fun hnil => hne hnil, hall, fun hlit => ?_⟩
          rw [hname] at hlit
          cases hlit

/-- The resolver is asked once at most, and what it would answer later does not matter. -/
theorem checkDestination_asked (parseUrl : ParseUrl) (rawUrl : String) (allowPrivate : Bool)
    (resolve : Resolver) (asked : List String) :
    (checkDestination parseUrl rawUrl allowPrivate resolve asked).2.length ≤ asked.length + 1 ∧
      ∀ resolve' : Resolver, resolve' asked = resolve asked →
        checkDestination parseUrl rawUrl allowPrivate resolve' asked =
          checkDestination parseUrl rawUrl allowPrivate resolve asked := by
  constructor
  · unfold checkDestination
    split
    · exact Nat.le_succ _
    · split_ifs
      · exact Nat.le_succ _
      · exact Nat.le_succ _
      · dsimp only
        split
        · exact Nat.le_succ _
        · split <;> simp
  · intro resolve' heq
    unfold checkDestination
    rw [heq]

theorem pinnedLookup_addresses {addresses : List ResolvedAddress} (hne : addresses ≠ [])
    (options : LookupOptions) :
    ∃ answer, pinnedLookup addresses options = some answer ∧ ∀ a ∈ answer.addresses, a ∈ addresses := by
  unfold pinnedLookup
  extract_lets wanted usable pool
  have hsub : ∀ a ∈ pool, a ∈ addresses := by
    intro a ha
    simp only [pool] at ha
    split_ifs at ha
    · exact List.mem_of_mem_filter ha
    · exact ha
  have hpool : pool ≠ [] := by
    simp only [pool]
    split_ifs with husable
    · exact husable
    · exact hne
  split_ifs
  · exact ⟨_, rfl, hsub⟩
  · obtain ⟨first, rest, heq⟩ := List.exists_cons_of_ne_nil hpool
    refine ⟨.one first, by simp [heq], fun a ha => hsub a ?_⟩
    rw [heq, List.mem_singleton.mp ha]
    exact List.mem_cons_self

/-- **The pin.**  Over the check and the request after it the resolver is asked once at most, and what it
would answer to a second question changes nothing; and when the request is made, whatever options the
socket layer passes to its `lookup`, it is handed addresses that were judged not blocked, as was the host
when it is a literal that is not looked up at all. -/
theorem webhook_pinned (parseUrl : ParseUrl) (rawUrl body : String) (timeoutMs : ℤ)
    (resolve : Resolver) :
    (checkAndSend parseUrl rawUrl false body timeoutMs resolve).2.length ≤ 1 ∧
      (∀ resolve' : Resolver, resolve' [] = resolve [] →
        checkAndSend parseUrl rawUrl false body timeoutMs resolve' =
          checkAndSend parseUrl rawUrl false body timeoutMs resolve) ∧
      ∀ request, (checkAndSend parseUrl rawUrl false body timeoutMs resolve).1 = some request →
        (∀ options, ∃ answer, request.lookup options = some answer ∧
          ∀ a ∈ answer.addresses, blockedReason a.address = none) ∧
        ((isIP request.hostname.toList).isSome → blockedReason request.hostname = none) := by
  obtain ⟨hasked, hsame⟩ := checkDestination_asked parseUrl rawUrl false resolve []
  refine ⟨?_, fun resolve' heq => ?_, fun request hreq => ?_⟩
  · unfold checkAndSend
    split <;> rename_i heq <;> rwa [heq] at hasked
  · unfold checkAndSend
    rw [hsame resolve' heq]
  · unfold checkAndSend at hreq
    split at hreq
    · rename_i url addresses asked hcheck
      obtain ⟨hne, hall, hliteral⟩ := checkDestination_ok hcheck
      cases hreq
      refine ⟨fun options => ?_, hliteral⟩
      obtain ⟨answer, hanswer, hsub⟩ := pinnedLookup_addresses hne options
      exact ⟨answer, hanswer, fun a ha => hall a (hsub a ha)⟩
    · cases hreq

/-- The one URL of the witness. -/
def hookUrl : ParseUrl := fun raw =>
  if raw = "https://hook.example/x" then some ⟨"https:", "", "", "hook.example", "", "/x", ""⟩ else none

/-- A name that answers with a public address first and with loopback after. -/
def rebinding : Resolver := fun asked _ =>
  if asked = [] then .ok [⟨"93.184.216.34", .ipv4⟩] else .ok [⟨"127.0.0.1", .ipv4⟩]

theorem webhook_pinned_rebinding :
    ∃ request, (checkAndSend hookUrl "https://hook.example/x" false "{}" 5000 rebinding).1 = some request ∧
      ∃ answer, request.lookup (.object none true) = some answer ∧
        ∀ a ∈ answer.addresses, blockedReason a.address = none := by
  obtain ⟨request, hreq⟩ : ∃ request,
      (checkAndSend hookUrl "https://hook.example/x" false "{}" 5000 rebinding).1 = some request :=
    Option.isSome_iff_exists.mp (by decide +kernel)
  exact ⟨request, hreq, ((webhook_pinned _ _ _ _ _).2.2 request hreq).1 _⟩

end DTwin.Destination
