import Rohccxx.Protocols

/-!
# Chains of IPv6 extension headers

The typed list of `core/encoding_methods.hpp`: extension headers one after another, each naming the type of the next.

- `parseItems_chain`: the loop goes through a chain header by header;
- `parseItems_eq_some`: what it goes through to the end is a chain;
- `extension_chain_accepted`: what is accepted with a terminal that is no extension header is exactly the chains
  whose headers all start within the first 256 octets, an offset being one octet;
- `far_chain_refused`: the bound on the offsets is one the grammar does not have.
-/

set_option autoImplicit false

namespace Rohccxx

open Octets

/-! ## The source -/

def isIpv6ExtensionHeaderType (nextHeader : UInt8) : Bool :=
  nextHeader == 0 || nextHeader == 43 || nextHeader == 44 || nextHeader == 60

structure Ipv6ExtensionHeaderItem where
  type : UInt8
  nextHeader : UInt8
  offset : UInt8
  length : UInt8
deriving DecidableEq, Repr

def ipv6ExtensionHeaderLength (data : Bytes) (headerType : UInt8) : Option UInt8 :=
  if headerType = 44 then
    if data.length < 8 then none else some 8
  else if data.length < 2 then none
  else
    let computed := ((u8At data 1).toNat + 1) * 8
    if computed < 8 ∨ computed > 0xFF ∨ data.length < computed then none else some (UInt8.ofNat computed)

/-- The length a header states, by its type or in its second octet. -/
def statedLength (type : UInt8) (header : Bytes) : Nat := if type = 44 then 8 else ((u8At header 1).toNat + 1) * 8

theorem le_statedLength (type : UInt8) (header : Bytes) : 8 ≤ statedLength type header := by
  unfold statedLength
  split <;> omega

theorem ipv6ExtensionHeaderLength_eq_some {data : Bytes} {type len : UInt8} :
    ipv6ExtensionHeaderLength data type = some len ↔
      len.toNat = statedLength type data ∧ statedLength type data ≤ data.length := by
  have hlen := len.toNat_lt
  unfold ipv6ExtensionHeaderLength statedLength
  by_cases htype : type = 44
  · rw [if_pos htype, if_pos htype]
    split
    case isTrue hshort => exact iff_of_false (by simp) fun h => absurd h.2 (by omega)
    case isFalse hshort =>
      rw [Option.some.injEq, and_iff_left (by omega), ← UInt8.toNat_inj]
      exact eq_comm
  · rw [if_neg htype, if_neg htype]
    split
    case isTrue hshort => exact iff_of_false (by simp) fun h => absurd h.2 (by omega)
    case isFalse hshort =>
      simp only
      split
      case isTrue hbound => exact iff_of_false (by simp) fun h => by omega
      case isFalse hbound =>
        rw [Option.some.injEq, and_iff_left (by omega), ← UInt8.toNat_inj, UInt8.toNat_ofNat',
          Nat.mod_eq_of_lt (by omega)]
        exact eq_comm

/-- The loop, from `pos` on, with the items so far. Every header has eight octets or more, so it ends. -/
def parseItems (data : Bytes) (capacity pos : Nat) (current : UInt8) (items : List Ipv6ExtensionHeaderItem) :
    Option (List Ipv6ExtensionHeaderItem × UInt8) :=
  if pos < data.length then
    if !isIpv6ExtensionHeaderType current || items.length ≥ capacity || pos > 0xFF then none
    else
      match h : ipv6ExtensionHeaderLength (data.drop pos) current with
      | none => none
      | some headerLen =>
        parseItems data capacity (pos + headerLen.toNat) (u8At data pos)
          (items ++ [⟨current, u8At data pos, UInt8.ofNat pos, headerLen⟩])
  else some (items, current)
termination_by data.length - pos
decreasing_by
  have hstated := (ipv6ExtensionHeaderLength_eq_some.mp h).1
  have := le_statedLength current (data.drop pos)
  omega

def parseIpv6ExtensionHeaderItems (data : Bytes) (firstNextHeader capacity : UInt8) :
    Option (List Ipv6ExtensionHeaderItem × UInt8) :=
  if data.length = 0 then
    if isIpv6ExtensionHeaderType firstNextHeader then none else some ([], firstNextHeader)
  else if capacity = 0 then none
  else parseItems data capacity.toNat 0 firstNextHeader []

/-- The terminal next header of a list of at most sixteen items. -/
def validateIpv6ExtensionHeaderList (data : Bytes) (firstNextHeader : UInt8) : Option UInt8 :=
  (parseIpv6ExtensionHeaderItems data firstNextHeader 16).map Prod.snd

/-! ## Chains -/

/-- Headers one after another, from type `type` on: each of an extension type, which its predecessor names, and of the
length it states, which fits an octet. -/
def IsChain : UInt8 → List Bytes → Prop
  | _, [] => True
  | type, header :: headers =>
    isIpv6ExtensionHeaderType type = true ∧ header.length = statedLength type header ∧ header.length ≤ 0xFF ∧
      IsChain (u8At header 0) headers

/-- The type that follows the last header. -/
def terminalOf : UInt8 → List Bytes → UInt8
  | type, [] => type
  | _, header :: headers => terminalOf (u8At header 0) headers

/-- The items of a chain: its headers one after another, from offset `offset` on. -/
def itemsOf : UInt8 → Nat → List Bytes → List Ipv6ExtensionHeaderItem
  | _, _, [] => []
  | type, offset, header :: headers =>
    ⟨type, u8At header 0, UInt8.ofNat offset, UInt8.ofNat header.length⟩ ::
      itemsOf (u8At header 0) (offset + header.length) headers

/-- Every header starts at an offset of one octet. -/
def StartsInReach : Nat → List Bytes → Prop
  | _, [] => True
  | offset, header :: headers => offset ≤ 0xFF ∧ StartsInReach (offset + header.length) headers

instance decidableIsChain : (type : UInt8) → (headers : List Bytes) → Decidable (IsChain type headers)
  | _, [] => isTrue trivial
  | _, header :: headers =>
    have := decidableIsChain (u8At header 0) headers
    inferInstanceAs (Decidable (_ ∧ _ ∧ _ ∧ _))

instance decidableStartsInReach : (offset : Nat) → (headers : List Bytes) → Decidable (StartsInReach offset headers)
  | _, [] => isTrue trivial
  | offset, header :: headers =>
    have := decidableStartsInReach (offset + header.length) headers
    inferInstanceAs (Decidable (_ ∧ _))

variable {data rest : Bytes} {capacity pos : Nat} {type terminal : UInt8} {headers : List Bytes}
  {items items' : List Ipv6ExtensionHeaderItem}

theorem parseItems_eq (data : Bytes) (capacity pos : Nat) (current : UInt8) (items : List Ipv6ExtensionHeaderItem) :
    parseItems data capacity pos current items =
      if pos < data.length then
        if !isIpv6ExtensionHeaderType current || items.length ≥ capacity || pos > 0xFF then none
        else (ipv6ExtensionHeaderLength (data.drop pos) current).bind fun headerLen =>
          parseItems data capacity (pos + headerLen.toNat) (u8At data pos)
            (items ++ [⟨current, u8At data pos, UInt8.ofNat pos, headerLen⟩])
      else some (items, current) := by
  rw [parseItems]
  split
  · split
    · rfl
    · split
      case h_1 hlen => rw [hlen, Option.bind_none]
      case h_2 headerLen hlen => rw [hlen, Option.bind_some]
  · rfl

theorem u8At_append_of_lt {header : Bytes} {i : Nat} (h : i < header.length) (rest : Bytes) :
    u8At (header ++ rest) i = u8At header i := by
  unfold u8At
  rw [List.getD_eq_getElem?_getD, List.getD_eq_getElem?_getD, List.getElem?_append_left h]

/-- The length of a header does not depend on what follows it. -/
theorem statedLength_append {header : Bytes} (h : 2 ≤ header.length) (type : UInt8) (rest : Bytes) :
    statedLength type (header ++ rest) = statedLength type header := by
  unfold statedLength
  rw [u8At_append_of_lt (by omega)]

/-- The loop goes through a chain. -/
theorem parseItems_chain (h : data.drop pos = headers.flatten ++ rest) (chain : IsChain type headers)
    (reach : StartsInReach pos headers) (room : items.length + headers.length ≤ capacity) :
    parseItems data capacity pos type items =
      parseItems data capacity (pos + headers.flatten.length) (terminalOf type headers)
        (items ++ itemsOf type pos headers) := by
  induction headers generalizing pos type items with
  | nil => rw [List.flatten_nil, List.length_nil, Nat.add_zero, itemsOf, List.append_nil, terminalOf]
  | cons header headers ih =>
    obtain ⟨hext, hstated, hoctet, hchain⟩ := chain
    obtain ⟨hpos, hreach⟩ := reach
    have height := le_statedLength type header
    rw [List.flatten_cons, List.append_assoc] at h
    rw [List.length_cons] at room
    have hlen := congrArg List.length h
    rw [List.length_drop, List.length_append] at hlen
    have hfirst : u8At data pos = u8At header 0 := by
      rw [← Nat.add_zero pos, ← u8At_drop, h, u8At_append_of_lt (by omega)]
    have hheader : ipv6ExtensionHeaderLength (data.drop pos) type = some (UInt8.ofNat header.length) := by
      rw [ipv6ExtensionHeaderLength_eq_some, h, statedLength_append (by omega), ← hstated, UInt8.toNat_ofNat',
        Nat.mod_eq_of_lt (by omega), List.length_append]
      exact ⟨rfl, Nat.le_add_right _ _⟩
    have hrest : data.drop (pos + header.length) = headers.flatten ++ rest := by
      rw [← List.drop_drop, h, List.drop_left]
    have hgate : ¬(!isIpv6ExtensionHeaderType type || items.length ≥ capacity || pos > 0xFF) = true := by
      rw [hext]
      simp only [Bool.not_true, Bool.false_or, Bool.or_eq_true, decide_eq_true_eq]
      omega
    rw [parseItems_eq, if_pos (by omega), if_neg hgate, hheader, Option.bind_some, hfirst, UInt8.toNat_ofNat',
      Nat.mod_eq_of_lt (by omega), ih hrest hchain hreach (by rw [List.length_append, List.length_singleton]; omega)]
    rw [List.flatten_cons, List.length_append, Nat.add_assoc, terminalOf, itemsOf, List.append_assoc, List.singleton_append]

theorem parseItems_end (h : data.drop pos = headers.flatten) (hpos : pos ≤ data.length) (chain : IsChain type headers)
    (reach : StartsInReach pos headers) (room : items.length + headers.length ≤ capacity) :
    parseItems data capacity pos type items = some (items ++ itemsOf type pos headers, terminalOf type headers) := by
  have hlen := congrArg List.length h
  rw [List.length_drop] at hlen
  rw [parseItems_chain (h.trans (List.append_nil _).symm) chain reach room, parseItems_eq, if_neg (by omega)]

/-- What the loop goes through to the end is a chain. -/
theorem parseItems_eq_some (h : parseItems data capacity pos type items = some (items', terminal))
    (hpos : pos ≤ data.length) (hroom : items.length ≤ capacity) :
    ∃ headers, data.drop pos = headers.flatten ∧ IsChain type headers ∧ StartsInReach pos headers ∧
      items.length + headers.length ≤ capacity ∧ items' = items ++ itemsOf type pos headers ∧
      terminal = terminalOf type headers := by
  fun_induction parseItems data capacity pos type items with
  | case1 pos type items hmore hgate => cases h
  | case2 pos type items hmore hgate hheader => cases h
  | case3 pos type items hmore hgate headerLen hheader ih =>
    obtain ⟨hstated, hfits⟩ := ipv6ExtensionHeaderLength_eq_some.mp hheader
    have height := le_statedLength type (data.drop pos)
    have hoctet := headerLen.toNat_lt
    simp only [Bool.or_eq_true, Bool.not_eq_true', decide_eq_true_eq, not_or, Bool.not_eq_false, Nat.not_le,
      Nat.not_lt] at hgate
    obtain ⟨⟨hext, hitems⟩, hreach⟩ := hgate
    have hheader : (slice data pos headerLen.toNat).length = headerLen.toNat :=
      length_slice (by rw [List.length_drop] at hfits; omega)
    have hsplit : slice data pos headerLen.toNat ++ data.drop (pos + headerLen.toNat) = data.drop pos :=
      slice_append_drop rfl
    have hfirst : u8At (slice data pos headerLen.toNat) 0 = u8At data pos := by
      rw [← u8At_append_of_lt (by omega) (data.drop (pos + headerLen.toNat)), hsplit, u8At_drop, Nat.add_zero]
    have hsame : statedLength type (slice data pos headerLen.toNat) = headerLen.toNat := by
      rw [← statedLength_append (by omega) type (data.drop (pos + headerLen.toNat)), hsplit, hstated]
    rw [List.length_drop] at hfits
    obtain ⟨headers, hrest, hchain, hstarts, hcount, hlist, hterminal⟩ :=
      ih h (by omega) (by rw [List.length_append, List.length_singleton]; omega)
    rw [List.length_append, List.length_singleton] at hcount
    refine ⟨slice data pos headerLen.toNat :: headers, ?_, ⟨hext, ?_, ?_, ?_⟩, ⟨hreach, ?_⟩, ?_, ?_, ?_⟩
    · rw [List.flatten_cons, ← hrest, hsplit]
    · rw [hheader, hsame]
    · rw [hheader]
      omega
    · rw [hfirst]
      exact hchain
    · rw [hheader]
      exact hstarts
    · rw [List.length_cons]
      omega
    · rw [hlist, itemsOf, hfirst, hheader, UInt8.ofNat_toNat, List.append_assoc, List.singleton_append]
    · rw [hterminal, terminalOf, hfirst]
  | case4 pos type items hmore =>
    obtain ⟨rfl, rfl⟩ := Prod.mk.inj (Option.some.inj h)
    refine ⟨[], ?_, trivial, trivial, hroom, ?_, rfl⟩
    · rw [List.flatten_nil, List.drop_eq_nil_of_le (by omega)]
    · rw [itemsOf, List.append_nil]

/-- Headers have octets. -/
theorem eq_nil_of_flatten (chain : IsChain type headers) (h : headers.flatten = []) : headers = [] := by
  cases headers with
  | nil => rfl
  | cons header headers =>
    have height := le_statedLength type header
    rw [← chain.2.1] at height
    have hlen := congrArg List.length h
    rw [List.flatten_cons, List.length_append, List.length_nil] at hlen
    omega

/-- The string is a chain of at most `capacity` headers that start in reach. -/
structure SplitsInto (data : Bytes) (first : UInt8) (capacity : Nat) (headers : List Bytes) : Prop where
  tiles : data = headers.flatten
  chain : IsChain first headers
  reach : StartsInReach 0 headers
  room : headers.length ≤ capacity

theorem parseIpv6ExtensionHeaderItems_iff (data : Bytes) (first capacity : UInt8) (items : List Ipv6ExtensionHeaderItem)
    (terminal : UInt8) :
    (parseIpv6ExtensionHeaderItems data first capacity = some (items, terminal) ∧
        isIpv6ExtensionHeaderType terminal = false) ↔
      ∃ headers, SplitsInto data first capacity.toNat headers ∧ items = itemsOf first 0 headers ∧
        terminal = terminalOf first headers ∧ isIpv6ExtensionHeaderType terminal = false := by
  unfold parseIpv6ExtensionHeaderItems
  by_cases hempty : data.length = 0
  · obtain rfl := List.length_eq_zero_iff.mp hempty
    rw [if_pos hempty]
    constructor
    · rintro ⟨h, hterminal⟩
      split at h
      · cases h
      · obtain ⟨rfl, rfl⟩ := Prod.mk.inj (Option.some.inj h)
        exact ⟨[], ⟨rfl, trivial, trivial, Nat.zero_le _⟩, rfl, rfl, hterminal⟩
    · rintro ⟨headers, ⟨hdata, hchain, -, -⟩, rfl, rfl, hterminal⟩
      obtain rfl := eq_nil_of_flatten hchain hdata.symm
      refine ⟨?_, hterminal⟩
      rw [if_neg (by rw [show isIpv6ExtensionHeaderType first = false from hterminal]; exact Bool.false_ne_true)]
      rfl
  · rw [if_neg hempty]
    constructor
    · rintro ⟨h, hterminal⟩
      split at h
      · cases h
      · obtain ⟨headers, hdata, hchain, hreach, hcount, hitems, hend⟩ :=
          parseItems_eq_some h (Nat.zero_le _) (Nat.zero_le _)
        rw [List.length_nil, Nat.zero_add] at hcount
        exact ⟨headers, ⟨hdata, hchain, hreach, hcount⟩, hitems, hend, hterminal⟩
    · rintro ⟨headers, ⟨hdata, hchain, hreach, hcount⟩, rfl, rfl, hterminal⟩
      refine ⟨?_, hterminal⟩
      have hsome : headers.length ≠ 0 := fun h => by
        rw [List.length_eq_zero_iff.mp h] at hdata
        exact hempty (congrArg List.length hdata)
      have hcapacity : capacity ≠ 0 := fun h => by
        subst h
        exact hsome (Nat.le_zero.mp hcount)
      rw [if_neg hcapacity]
      exact parseItems_end hdata (Nat.zero_le _) hchain hreach (by rw [List.length_nil, Nat.zero_add]; exact hcount)

/-- **The extension header list.** What is accepted with a terminal that is no extension header is exactly the chains of
headers that start in reach. The items are the headers one after another, and the terminal is the type the last one names. -/
theorem extension_chain_accepted (data : Bytes) (first : UInt8) :
    (∀ capacity items terminal,
      (parseIpv6ExtensionHeaderItems data first capacity = some (items, terminal) ∧
          isIpv6ExtensionHeaderType terminal = false) ↔
        ∃ headers, SplitsInto data first capacity.toNat headers ∧ items = itemsOf first 0 headers ∧
          terminal = terminalOf first headers ∧ isIpv6ExtensionHeaderType terminal = false) ∧
      ∀ terminal,
        (validateIpv6ExtensionHeaderList data first = some terminal ∧ isIpv6ExtensionHeaderType terminal = false) ↔
          ∃ headers, SplitsInto data first 16 headers ∧ terminal = terminalOf first headers ∧
            isIpv6ExtensionHeaderType terminal = false := by
  refine ⟨fun capacity items terminal => parseIpv6ExtensionHeaderItems_iff data first capacity items terminal,
    fun terminal => ?_⟩
  constructor
  · rintro ⟨h, hterminal⟩
    obtain ⟨⟨items, terminal'⟩, hparse, rfl⟩ := Option.map_eq_some_iff.mp h
    obtain ⟨headers, hsplit, -, hend, -⟩ :=
      (parseIpv6ExtensionHeaderItems_iff data first 16 items terminal').mp ⟨hparse, hterminal⟩
    exact ⟨headers, hsplit, hend, hterminal⟩
  · rintro ⟨headers, hsplit, rfl, hterminal⟩
    have hparse := (parseIpv6ExtensionHeaderItems_iff data first 16 (itemsOf first 0 headers) _).mpr
      ⟨headers, hsplit, rfl, rfl, hterminal⟩
    exact ⟨Option.map_eq_some_iff.mpr ⟨_, hparse.1, rfl⟩, hterminal⟩

/-- A fragment header in front of another one. -/
def fragmentHeader : Bytes := [44, 0, 0, 0, 0, 0, 0, 0]

/-- A fragment header in front of UDP. -/
def lastFragmentHeader : Bytes := [17, 0, 0, 0, 0, 0, 0, 0]

/-- Thirty-three fragment headers are a chain that states all its lengths, and the last one starts out of reach. -/
theorem far_chain_refused :
    ¬∀ data first capacity, (∃ items terminal, parseIpv6ExtensionHeaderItems data first capacity = some (items, terminal)) ↔
      ∃ headers, data = headers.flatten ∧ IsChain first headers ∧ headers.length ≤ capacity.toNat ∧
        isIpv6ExtensionHeaderType (terminalOf first headers) = false := by
  intro h
  have hchain : IsChain 44 (List.replicate 32 fragmentHeader ++ [lastFragmentHeader]) := by decide +kernel
  obtain ⟨items, terminal, hparse⟩ := (h _ 44 33).mpr ⟨_, rfl, hchain, by decide, by decide +kernel⟩
  have hfront := @parseItems_chain (List.replicate 32 fragmentHeader ++ [lastFragmentHeader]).flatten lastFragmentHeader 33 0
    44 (List.replicate 32 fragmentHeader) [] (by decide +kernel) (by decide +kernel) (by decide +kernel) (by decide)
  unfold parseIpv6ExtensionHeaderItems at hparse
  rw [if_neg (by decide +kernel), if_neg (by decide)] at hparse
  have hrefused := hfront.symm.trans hparse
  rw [parseItems_eq, if_pos (by decide +kernel), if_pos (by decide +kernel)] at hrefused
  cases hrefused

end Rohccxx
