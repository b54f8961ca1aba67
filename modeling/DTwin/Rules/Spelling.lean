import DTwin.Rules.Destination

/-!
# DTwin.Rules.Spelling — an address and how it is written

`apps/ingest/src/rules/destination.ts`.  The block lists look at the value of an address (`listed_eq`), but whether an
address is IPv4-mapped is read off its text.  A text that is recognised denotes the mapped address it seems to
(`recognised_spec`); one that denotes a mapped address in another spelling is looked up among the IPv6 ranges, none of
which holds it (`listedAt_mapped`).  `spelling_iff` says for which texts that matters.
-/

namespace DTwin.Destination

open Inet

/-! ## Values -/

/-- The value and the length of the prefix of a range. -/
def Range.subnet? (r : Range) (family : Family) : Option (ℕ × ℕ) :=
  match r.cidr.toList.splitOn '/' with
  | [net, bits] => (family.value? net).bind fun net => (number? 10 digit? bits).map fun bits => (net, bits)
  | _ => none

/-- `check` of an address that has the value. -/
def Range.holds (r : Range) (family : Family) (value : ℕ) : Bool :=
  (r.subnet? family).any fun s => inSubnet family.width s.2 s.1 value

/-- The verdict on a value. -/
def listedAt (family : Family) (value : ℕ) : Option String :=
  ((blocked family).find? fun r => r.holds family value).map (·.label)

/-- The address `::ffff:0:0` and the 32 bits of an IPv4 address. -/
def mapped (quad : ℕ) : ℕ := 65535 * 4294967296 + quad

/-- The text is of one of the two spellings that `blockedReason` looks for. -/
def Recognised (address : String) : Prop :=
  (mappedDotted? address.toList).isSome = true ∨ (mappedHex? address.toList).isSome = true

instance (address : String) : Decidable (Recognised address) := inferInstanceAs (Decidable (_ ∨ _))

/-- No range holds the IPv4 address. -/
def Unlisted (quad : ℕ) : Prop := ∀ r ∈ blockedV4, r.holds .ipv4 quad = false

instance (quad : ℕ) : Decidable (Unlisted quad) := inferInstanceAs (Decidable (∀ _ ∈ _, _))

theorem check_eq {family : Family} {address : List Char} {value : ℕ} (hvalue : family.value? address = some value)
    (r : Range) : r.check family address = r.holds family value := by
  unfold Range.check Range.holds Range.subnet?
  rw [hvalue]
  match r.cidr.toList.splitOn '/' with
  | [] => rfl
  | [_] => rfl
  | [net, bits] =>
    dsimp only
    cases family.value? net with
    | none => rfl
    | some net =>
      cases number? 10 digit? bits with
      | none => rfl
      | some bits => rfl
  | _ :: _ :: _ :: _ => rfl

theorem listed_eq {family : Family} {address : List Char} {value : ℕ} (hvalue : family.value? address = some value) :
    listed family address = listedAt family value := by
  unfold listed listedAt
  congr 2
  funext r
  exact check_eq hvalue r

theorem listedAt_eq_none_iff {quad : ℕ} : listedAt .ipv4 quad = none ↔ Unlisted quad := by
  unfold listedAt Unlisted
  rw [Option.map_eq_none_iff, List.find?_eq_none]
  simp only [Bool.not_eq_true]
  exact Iff.rfl

/-- What a range is compared with, the address being mapped. -/
theorem inSubnet_mapped {quad bits net : ℕ} (hquad : quad < 4294967296) (hbits : bits ≤ 96) :
    inSubnet 128 bits net (mapped quad) = (65535 >>> (96 - bits) == net >>> (128 - bits)) := by
  have hsplit : 128 - bits = 32 + (96 - bits) := by omega
  have hprefix : mapped quad >>> 32 = 65535 := by
    rw [Nat.shiftRight_eq_div_pow, mapped]
    omega
  have hshift : mapped quad >>> (128 - bits) = 65535 >>> (96 - bits) := by
    rw [hsplit, Nat.shiftRight_add, hprefix]
  rw [inSubnet, hshift]

/-- The prefixes of the IPv6 ranges are not those of mapped addresses. -/
theorem blockedV6_apart : ∀ r ∈ blockedV6, ∀ s ∈ r.subnet? .ipv6,
    (s.2 ≤ 96 ∧ 65535 >>> (96 - s.2) ≠ s.1 >>> (128 - s.2)) ∨ (s.2 = 128 ∧ s.1 < mapped 0) := by
  decide +kernel

/-- No IPv6 range holds a mapped address. -/
theorem listedAt_mapped {quad : ℕ} (hquad : quad < 4294967296) : listedAt .ipv6 (mapped quad) = none := by
  unfold listedAt
  rw [Option.map_eq_none_iff, List.find?_eq_none]
  intro r hr hholds
  obtain ⟨s, hs, hin⟩ := (Option.any_eq_true _ _).mp hholds
  rcases blockedV6_apart r hr s hs with ⟨hbits, hne⟩ | ⟨hbits, hlt⟩
  · have hcompare : inSubnet 128 s.2 s.1 (mapped quad) = (65535 >>> (96 - s.2) == s.1 >>> (128 - s.2)) :=
      inSubnet_mapped hquad hbits
    exact hne (eq_of_beq (hcompare.symm.trans hin))
  · have hsame : mapped quad = s.1 := by
      have hshift : mapped quad >>> (128 - s.2) = s.1 >>> (128 - s.2) := eq_of_beq hin
      rwa [hbits, Nat.sub_self, Nat.shiftRight_zero, Nat.shiftRight_zero] at hshift
    have hle : mapped 0 ≤ mapped quad := Nat.add_le_add_left (Nat.zero_le quad) _
    omega

/-- A dotted quad is judged by its value. -/
theorem judged_quad {s : List Char} {quad : ℕ} (hquad : ipv4? s = some quad) : judged s = listedAt .ipv4 quad := by
  have hip : isIP s = some .ipv4 := by
    unfold isIP
    rw [hquad]
    rfl
  unfold judged
  rw [hip]
  exact listed_eq hquad

theorem isIP_ipv6 {s : List Char} {v : ℕ} (hv : ipv6? s = some v) : isIP s = some .ipv6 := by
  unfold isIP
  rw [ipv4?_of_ipv6? hv, hv]
  rfl

theorem judged_ipv6 {s : List Char} {v : ℕ} (hv : ipv6? s = some v) : judged s = listedAt .ipv6 v := by
  unfold judged
  rw [isIP_ipv6 hv]
  exact listed_eq hv

theorem blockedReason_quad {address : String} {quad : ℕ} (hquad : ipv4? address.toList = some quad) :
    blockedReason address = listedAt .ipv4 quad := by
  have hip : isIP address.toList ≠ some .ipv6 := by
    unfold isIP
    rw [hquad]
    exact nofun
  unfold blockedReason
  rw [if_neg hip]
  exact judged_quad hquad

/-! ## Quads -/

theorem octet?_repr : ∀ n < 256, octet? (Nat.repr n).toList = some n := by decide +kernel

theorem dotted_eq (hi lo : ℕ) : dotted hi lo =
    ['.'].intercalate ([hi / 256, hi % 256, lo / 256, lo % 256].map fun n => (Nat.repr n).toList) := by
  simp [dotted, List.intercalate, toString]

/-- Four octets are read back as they are written. -/
theorem ipv4?_dotted {hi lo : ℕ} (hhi : hi < 65536) (hlo : lo < 65536) :
    ipv4? (dotted hi lo) = some (hi * 65536 + lo) := by
  have h₁ := octet?_repr (hi / 256) (by omega)
  have h₂ := octet?_repr (hi % 256) (by omega)
  have h₃ := octet?_repr (lo / 256) (by omega)
  have h₄ := octet?_repr (lo % 256) (by omega)
  have hparts : (dotted hi lo).splitOn '.' =
      [hi / 256, hi % 256, lo / 256, lo % 256].map fun n => (Nat.repr n).toList := by
    rw [dotted_eq]
    refine List.splitOn_intercalate '.' (fun part hpart => ?_) (by simp)
    obtain ⟨n, hn, rfl⟩ := List.mem_map.mp hpart
    have hlt : n < 256 := by
      simp only [List.mem_cons, List.not_mem_nil, or_false] at hn
      omega
    exact not_mem_of_isSome rfl (octet?_spec (octet?_repr n hlt)).1
  have hquad : quad? (dotted hi lo) = some [hi / 256, hi % 256, lo / 256, lo % 256] := by
    unfold quad?
    rw [hparts]
    exact Result.mapM_eq_some.mpr (.cons h₁ (.cons h₂ (.cons h₃ (.cons h₄ .nil))))
  have hsum : ((hi / 256 * 256 + hi % 256) * 256 + lo / 256) * 256 + lo % 256 = hi * 65536 + lo := by omega
  have hvalue : ofDigits 256 [hi / 256, hi % 256, lo / 256, lo % 256] =
      ((hi / 256 * 256 + hi % 256) * 256 + lo / 256) * 256 + lo % 256 := by simp [ofDigits]
  rw [ipv4?, hquad, Option.map_some, hvalue, hsum]

/-! ## The text -/

theorem afterMapped?_spec {address s : List Char} (h : afterMapped? address = some s) :
    ∃ head, IsFfff head ∧ address = ':' :: ':' :: (head ++ ':' :: s) := by
  unfold afterMapped? at h
  split at h
  · rename_i a b c d s'
    split_ifs at h with hall
    obtain rfl := Option.some.inj h
    refine ⟨[a, b, c, d], ⟨a, b, c, d, rfl, fun x hx => ?_⟩, rfl⟩
    simpa using List.all_eq_true.mp hall x hx
  · cases h

/-- What is recognised as a quad denotes the mapped address of that quad. -/
theorem mappedDotted?_spec {address s : List Char} {v : ℕ} (h : mappedDotted? address = some s)
    (hv : ipv6? address = some v) : ∃ quad, ipv4? s = some quad ∧ v = mapped quad := by
  unfold mappedDotted? at h
  obtain ⟨hafter, hparts⟩ := Option.filter_eq_some_iff.mp h
  obtain ⟨head, hhead, rfl⟩ := afterMapped?_spec hafter
  simp only [Bool.and_eq_true, beq_iff_eq, List.all_eq_true] at hparts
  obtain ⟨hfour, hall⟩ := hparts
  have hchars : ∀ c ∈ s, c.isDigit = true ∨ c = '.' := by
    have hmem := forall_mem_intercalate (x := '.') (P := fun c => c.isDigit = true ∨ c = '.') (Or.inr rfl)
      (s.splitOn '.') fun p hp c hc => Or.inl ((hall p hp).2 c hc)
    rwa [List.intercalate_splitOn] at hmem
  have hnot : ∀ c, c.isDigit = false → c ≠ '.' → c ∉ s := by
    intro c hdigit hpoint hc
    rcases hchars c hc with hd | heq
    · rw [hdigit] at hd
      cases hd
    · exact hpoint heq
  have hpoint : '.' ∈ s := by
    by_contra hnone
    rw [List.splitOn_eq_singleton hnone] at hfour
    cases hfour
  rw [ipv6?_mapped_quad hhead (hnot ':' rfl (by decide)) (hnot '%' rfl (by decide)) hpoint] at hv
  obtain ⟨quad, hquad, rfl⟩ := Option.map_eq_some_iff.mp hv
  exact ⟨quad, hquad, rfl⟩

/-- What is recognised as two groups denotes the mapped address of their bits. -/
theorem mappedHex?_spec {address : List Char} {hi lo v : ℕ} (h : mappedHex? address = some (hi, lo))
    (hv : ipv6? address = some v) : hi < 65536 ∧ lo < 65536 ∧ v = mapped (hi * 65536 + lo) := by
  unfold mappedHex? at h
  obtain ⟨s, hafter, hs⟩ := Option.bind_eq_some_iff.mp h
  obtain ⟨head, hhead, rfl⟩ := afterMapped?_spec hafter
  split at hs
  · rename_i p q hparts
    obtain ⟨hi', hp, hs⟩ := Option.bind_eq_some_iff.mp hs
    obtain ⟨lo', hq, hs⟩ := Option.map_eq_some_iff.mp hs
    obtain ⟨rfl, rfl⟩ := Prod.mk.inj hs
    rw [ipv6?_mapped_groups hhead hparts hp hq] at hv
    exact ⟨(group?_spec hp).2, (group?_spec hq).2, (Option.some.inj hv).symm⟩
  · cases hs

/-- **A text that is recognised** is judged as the IPv4 address that it embeds. -/
theorem recognised_spec {address : String} {v : ℕ} (hv : ipv6? address.toList = some v) (h : Recognised address) :
    ∃ quad, quad < 4294967296 ∧ v = mapped quad ∧ blockedReason address = listedAt .ipv4 quad := by
  unfold blockedReason
  rw [if_pos (isIP_ipv6 hv)]
  cases hdotted : mappedDotted? address.toList with
  | some s =>
    obtain ⟨quad, hquad, rfl⟩ := mappedDotted?_spec hdotted hv
    exact ⟨quad, (ipv4?_spec hquad).2, rfl, judged_quad hquad⟩
  | none =>
    obtain ⟨⟨hi, lo⟩, hhex⟩ : ∃ p, mappedHex? address.toList = some p := by
      rcases h with h | h
      · rw [hdotted] at h
        cases h
      · exact Option.isSome_iff_exists.mp h
    obtain ⟨hhi, hlo, rfl⟩ := mappedHex?_spec hhex hv
    refine ⟨hi * 65536 + lo, by omega, rfl, ?_⟩
    simp only [hhex]
    exact judged_quad (ipv4?_dotted hhi hlo)

/-- **Any other** is looked up among the IPv6 ranges. -/
theorem not_recognised_spec {address : String} {v : ℕ} (hv : ipv6? address.toList = some v)
    (h : ¬ Recognised address) : blockedReason address = listedAt .ipv6 v := by
  have hdotted : mappedDotted? address.toList = none := by
    by_contra hne
    exact h (Or.inl (Option.isSome_iff_ne_none.mpr hne))
  have hhex : mappedHex? address.toList = none := by
    by_contra hne
    exact h (Or.inr (Option.isSome_iff_ne_none.mpr hne))
  unfold blockedReason
  rw [if_pos (isIP_ipv6 hv)]
  simp only [hdotted, hhex]
  exact judged_ipv6 hv

/-- The verdict on a text that denotes a mapped address. -/
theorem verdict_mapped {address : String} {quad : ℕ} (hquad : quad < 4294967296)
    (hv : ipv6? address.toList = some (mapped quad)) :
    blockedReason address = if Recognised address then listedAt .ipv4 quad else none := by
  split_ifs with h
  · obtain ⟨quad', -, hmapped, hverdict⟩ := recognised_spec hv h
    have hsame : quad' = quad := (Nat.add_left_cancel hmapped).symm
    rw [hverdict, hsame]
  · rw [not_recognised_spec hv h, listedAt_mapped hquad]

/-- **The verdict and the spelling.**  A text that denotes an IPv4-mapped address is given the verdict of that IPv4
address exactly if it is of one of the two spellings looked for, or no range holds the IPv4 address; and two texts that
denote one address are given one verdict unless it is such an address, in a blocked range, and only one of them is
recognised. -/
theorem spelling_iff {address : String} {v : ℕ} (hv : ipv6? address.toList = some v) :
    (∀ (embedded : String) (quad : ℕ), ipv4? embedded.toList = some quad → v = mapped quad →
      (blockedReason address = blockedReason embedded ↔ Recognised address ∨ Unlisted quad)) ∧
    ∀ address' : String, ipv6? address'.toList = some v →
      (blockedReason address' = blockedReason address ↔
        ∀ quad < 4294967296, v = mapped quad → (Recognised address' ↔ Recognised address) ∨ Unlisted quad) := by
  constructor
  · rintro embedded quad hembedded rfl
    have hquad := (ipv4?_spec hembedded).2
    rw [verdict_mapped hquad hv, blockedReason_quad hembedded]
    split_ifs with h
    · exact iff_of_true rfl (Or.inl h)
    · rw [eq_comm, listedAt_eq_none_iff]
      exact ⟨Or.inr, fun hor => hor.resolve_left h⟩
  · intro address' hv'
    by_cases hmapped : ∃ quad < 4294967296, v = mapped quad
    · obtain ⟨quad, hquad, rfl⟩ := hmapped
      have hcondition : (∀ quad' < 4294967296, mapped quad = mapped quad' →
          (Recognised address' ↔ Recognised address) ∨ Unlisted quad') ↔
          (Recognised address' ↔ Recognised address) ∨ Unlisted quad := by
        refine ⟨fun h => h quad hquad rfl, fun h quad' _ heq => ?_⟩
        rwa [← Nat.add_left_cancel heq]
      rw [hcondition, verdict_mapped hquad hv, verdict_mapped hquad hv', ← listedAt_eq_none_iff]
      by_cases h : Recognised address <;> by_cases h' : Recognised address' <;> simp [h, h', eq_comm]
    · have hnot : ∀ {text : String}, ipv6? text.toList = some v → ¬ Recognised text := by
        intro text ht hrec
        obtain ⟨quad, hquad, heq, -⟩ := recognised_spec ht hrec
        exact hmapped ⟨quad, hquad, heq⟩
      rw [not_recognised_spec hv (hnot hv), not_recognised_spec hv' (hnot hv')]
      exact iff_of_true rfl fun quad hquad heq => absurd ⟨quad, hquad, heq⟩ hmapped

/-- The two spellings of loopback, in capitals. -/
theorem spelling_iff_loopback : blockedReason "::FFFF:7F00:1" = blockedReason "::FFFF:127.0.0.1" :=
  ((spelling_iff (v := 281472812449793) (by decide +kernel)).2 "::FFFF:7F00:1" (by decide +kernel)).mpr
    fun _ _ _ => Or.inl (by decide +kernel)

/-- The same address written out in full is let through. -/
theorem loopback_in_full :
    ipv6? "0:0:0:0:0:ffff:127.0.0.1".toList = ipv6? "::ffff:127.0.0.1".toList ∧
      ipv6? "0:0:0:0:0:ffff:127.0.0.1".toList = some (mapped 2130706433) ∧
      ipv4? "127.0.0.1".toList = some 2130706433 ∧
      blockedReason "0:0:0:0:0:ffff:127.0.0.1" = none ∧ blockedReason "::ffff:127.0.0.1" = some "loopback" ∧
      blockedReason "127.0.0.1" = some "loopback" := by
  decide +kernel

end DTwin.Destination
