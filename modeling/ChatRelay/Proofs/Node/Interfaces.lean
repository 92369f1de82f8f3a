import ChatRelay.Proofs.Node
import Mathlib.Data.List.Nodup
import Mathlib.Tactic.SplitIfs

/-!
# The interface that names a node

Of the interfaces that a host lists, those count that have an address (`HasAddress`), and of these
the first one in the order of names gives the node (`findSome?_sorted_eq_some_iff`). Of its address
only the digits count, and of each digit only its value (`addressDigits_eq`). So what a listing
shows of the interfaces that count decides on the node, whatever their order, what else is listed
and how the addresses are written (`resolve_networkInterface`).
-/

namespace ChatRelay

/-! ## Names -/

namespace InterfaceName

variable {a b c : InterfaceName}

theorem le_total (a b : InterfaceName) : a ≤ b ∨ b ≤ a :=
  List.le_total a.octets b.octets

theorem le_trans (hab : a ≤ b) (hbc : b ≤ c) : a ≤ c := by
  have hoctets : a.octets ≤ b.octets := hab
  exact List.le_trans hoctets hbc

theorem le_antisymm (hab : a ≤ b) (hba : b ≤ a) : a = b := by
  cases a
  cases b
  exact congrArg mk (List.le_antisymm hab hba)

end InterfaceName

/-! ## Digits of an address -/

namespace Hex

variable {c : Char} {v : Nat}

theorem toNat_lt_of_value? (h : value? c = some v) : c.toNat < 128 := by
  rw [value?] at h
  split_ifs at h with hdigit hlower hupper
  · exact Nat.lt_of_le_of_lt hdigit.2 (by decide)
  · exact Nat.lt_of_le_of_lt hlower.2 (by decide)
  · exact Nat.lt_of_le_of_lt hupper.2 (by decide)

/-- In lower case a digit is told by its value, which it keeps, and zero has one case only. -/
theorem toLower_of_value? (h : value? c = some v) :
    c.toLower = digit v ∧ value? c.toLower = some v ∧ (c.toLower = '0' → c = '0') := by
  have hall : ∀ k < 128, ∀ v ∈ value? (Char.ofNat k), (Char.ofNat k).toLower = digit v ∧
      value? (Char.ofNat k).toLower = some v ∧
      ((Char.ofNat k).toLower = '0' → Char.ofNat k = '0') := by decide +kernel
  have hc := hall c.toNat (toNat_lt_of_value? h)
  rw [Char.ofNat_toNat] at hc
  exact hc v h

end Hex

namespace Interface

variable {interface : Interface} {interfaces interfaces' : List Interface} {text digits : String}
variable {node : NodeId}

/-- The values of the hexadecimal digits in a text. -/
def digitValues (text : String) : List Nat := text.toList.filterMap Hex.value?

/-- **Of an address only the values of its digits count**: not their letter case, and nothing that
stands before, between or behind them. -/
theorem addressDigits_eq (text : String) :
    addressDigits text = String.ofList ((digitValues text).map Hex.digit) := by
  rw [addressDigits, digitValues]
  generalize text.toList = cs
  congr 1
  induction cs with
  | nil => rfl
  | cons c cs ih =>
    cases hc : Hex.value? c with
    | none => simpa [Hex.isDigit, hc] using ih
    | some v => simpa [Hex.isDigit, hc, (Hex.toLower_of_value? hc).1] using ih

/-- The digits that are kept of an address have the values that they had in it. -/
theorem digitValues_addressDigits (text : String) :
    digitValues (addressDigits text) = digitValues text := by
  rw [digitValues, digitValues, addressDigits, String.toList_ofList]
  induction text.toList with
  | nil => rfl
  | cons c cs ih =>
    cases hc : Hex.value? c with
    | none => simpa [Hex.isDigit, hc] using ih
    | some v => simpa [Hex.isDigit, hc, (Hex.toLower_of_value? hc).2.1] using ih

/-! ## Interfaces that count -/

/-- What makes an interface count, and the text of its address: it is not the loopback interface,
the address can be read as text, and one of its digits is not zero. -/
structure HasAddress (interface : Interface) (text : String) : Prop where
  name_ne : interface.name ≠ "lo"
  readable : ∃ octets, interface.address = some octets ∧ Utf8.text? octets = some text
  nonzero : ∃ c ∈ text.toList, Hex.isDigit c = true ∧ c ≠ '0'

theorem not_all_zero_iff : ¬(addressDigits text).toList.all (· = '0') = true ↔
    ∃ c ∈ text.toList, Hex.isDigit c = true ∧ c ≠ '0' := by
  rw [addressDigits, String.toList_ofList, Bool.not_eq_true, List.all_eq_false]
  constructor
  · rintro ⟨d, hd, hne⟩
    obtain ⟨c, hc, rfl⟩ := List.mem_map.1 hd
    obtain ⟨hc, hdigit⟩ := List.mem_filter.1 hc
    refine ⟨c, hc, hdigit, ?_⟩
    rintro rfl
    exact hne rfl
  · rintro ⟨c, hc, hdigit, hne⟩
    obtain ⟨v, hv⟩ := Option.isSome_iff_exists.1 hdigit
    refine ⟨c.toLower, List.mem_map_of_mem (List.mem_filter.2 ⟨hc, hdigit⟩), fun hzero => ?_⟩
    exact hne ((Hex.toLower_of_value? hv).2.2 (of_decide_eq_true hzero))

/-- The interfaces that count are those with digits. -/
theorem digits?_eq_some_iff : interface.digits? = some digits ↔
    ∃ text, interface.HasAddress text ∧ digits = addressDigits text := by
  rw [digits?]
  constructor
  · intro h
    split at h
    · cases h
    next hname =>
    split at h
    · cases h
    next text htext =>
    obtain ⟨octets, hoctets, hread⟩ := Option.bind_eq_some_iff.1 htext
    dsimp only at h
    split at h
    · cases h
    next hnonzero =>
    exact ⟨text, ⟨hname, ⟨octets, hoctets, hread⟩, not_all_zero_iff.1 hnonzero⟩,
      (Option.some.inj h).symm⟩
  · rintro ⟨text, ⟨hname, ⟨octets, hoctets, hread⟩, hnonzero⟩, rfl⟩
    rw [if_neg hname, hoctets, Option.bind_some, hread]
    exact if_neg (not_all_zero_iff.2 hnonzero)

theorem digits?_eq_none_iff : interface.digits? = none ↔ ∀ text, ¬interface.HasAddress text := by
  rw [Option.eq_none_iff_forall_ne_some]
  constructor
  · exact fun h text haddress => h _ (digits?_eq_some_iff.2 ⟨text, haddress, rfl⟩)
  · intro h digits hdigits
    obtain ⟨text, haddress, -⟩ := digits?_eq_some_iff.1 hdigits
    exact h text haddress

/-! ## The first of them -/

/-- Interfaces in the order of their names. -/
def sorted (interfaces : List Interface) : List Interface :=
  interfaces.mergeSort fun a b => a.name ≤ b.name

theorem sorted_pairwise (interfaces : List Interface) :
    (sorted interfaces).Pairwise (·.name ≤ ·.name) := by
  have hpairwise := @List.pairwise_mergeSort Interface (fun a b => decide (a.name ≤ b.name))
    (fun a b c hab hbc => by
      rw [decide_eq_true_eq] at hab hbc ⊢
      exact InterfaceName.le_trans hab hbc)
    (fun a b => by
      rw [Bool.or_eq_true, decide_eq_true_eq, decide_eq_true_eq]
      exact InterfaceName.le_total a.name b.name) interfaces
  exact hpairwise.imp of_decide_eq_true

theorem mem_sorted : interface ∈ sorted interfaces ↔ interface ∈ interfaces :=
  List.mem_mergeSort

/-- The first interface that counts is before all others that do. -/
theorem of_findSome?_sorted (h : (sorted interfaces).findSome? digits? = some digits) :
    ∃ interface ∈ interfaces, interface.digits? = some digits ∧
      ∀ other ∈ interfaces, ∀ text, other.HasAddress text → interface.name ≤ other.name := by
  obtain ⟨before, interface, after, heq, hdigits, hbefore⟩ := List.findSome?_eq_some_iff.1 h
  have hpairwise := sorted_pairwise interfaces
  rw [heq, List.pairwise_append, List.pairwise_cons] at hpairwise
  refine ⟨interface, mem_sorted.1 (heq ▸ by simp), hdigits, fun other hother text haddress => ?_⟩
  have hsorted : other ∈ before ++ interface :: after := heq ▸ mem_sorted.2 hother
  rcases List.mem_append.1 hsorted with hother | hother
  · exact absurd haddress (digits?_eq_none_iff.1 (hbefore other hother) text)
  · rcases List.mem_cons.1 hother with rfl | hother
    · exact (InterfaceName.le_total _ _).elim id id
    · exact hpairwise.2.1.1 other hother

/-- **The node of some interfaces**, of which no two have one name, is that of the address of the
first one that counts. -/
theorem node?_eq_some_iff (hnames : (interfaces.map (·.name)).Nodup) :
    node? interfaces = some node ↔ ∃ interface ∈ interfaces, ∃ text, interface.HasAddress text ∧
      (∀ other ∈ interfaces, ∀ text, other.HasAddress text → interface.name ≤ other.name) ∧
      node = nodeOfAddress (addressDigits text) := by
  rw [node?, ← sorted, Option.map_eq_some_iff]
  constructor
  · rintro ⟨digits, hfind, rfl⟩
    obtain ⟨interface, hmem, hdigits, hfirst⟩ := of_findSome?_sorted hfind
    obtain ⟨text, haddress, rfl⟩ := digits?_eq_some_iff.1 hdigits
    exact ⟨interface, hmem, text, haddress, hfirst, rfl⟩
  · rintro ⟨interface, hmem, text, haddress, hfirst, rfl⟩
    have hdigits := digits?_eq_some_iff.2 ⟨text, haddress, rfl⟩
    refine ⟨addressDigits text, ?_, rfl⟩
    cases hfind : (sorted interfaces).findSome? digits? with
    | none =>
      rw [List.findSome?_eq_none_iff.1 hfind interface (mem_sorted.2 hmem)] at hdigits
      cases hdigits
    | some digits =>
      obtain ⟨found, hfound, hdigits', hfirst'⟩ := of_findSome?_sorted hfind
      obtain ⟨text', haddress', -⟩ := digits?_eq_some_iff.1 hdigits'
      have hname := InterfaceName.le_antisymm (hfirst found hfound text' haddress')
        (hfirst' interface hmem text haddress)
      obtain rfl := List.inj_on_of_nodup_map hnames hmem hfound hname
      exact hdigits'.symm.trans hdigits

theorem node?_eq_none_iff : node? interfaces = none ↔
    ∀ interface ∈ interfaces, ∀ text, ¬interface.HasAddress text := by
  rw [node?, ← sorted, Option.map_eq_none_iff, List.findSome?_eq_none_iff]
  simp only [mem_sorted, digits?_eq_none_iff]

/-! ## What a listing shows -/

/-- What a listing shows of an interface that counts: its name and the values of the digits of its
address. -/
def Shows (interfaces : List Interface) (name : InterfaceName) (values : List Nat) : Prop :=
  ∃ interface ∈ interfaces, interface.name = name ∧
    ∃ text, interface.HasAddress text ∧ digitValues text = values

/-- All that a listing shows. -/
def shown (interfaces : List Interface) : List (InterfaceName × List Nat) :=
  interfaces.filterMap fun interface =>
    interface.digits?.map fun digits => (interface.name, digitValues digits)

theorem shows_iff_mem_shown {name : InterfaceName} {values : List Nat} :
    Shows interfaces name values ↔ (name, values) ∈ shown interfaces := by
  rw [shown, List.mem_filterMap, Shows]
  refine exists_congr fun interface => and_congr_right fun _ => ?_
  rw [Option.map_eq_some_iff]
  simp only [digits?_eq_some_iff, Prod.mk.injEq]
  constructor
  · rintro ⟨rfl, text, haddress, rfl⟩
    exact ⟨_, ⟨text, haddress, rfl⟩, rfl, digitValues_addressDigits text⟩
  · rintro ⟨_, ⟨text, haddress, rfl⟩, rfl, rfl⟩
    exact ⟨rfl, text, haddress, (digitValues_addressDigits text).symm⟩

instance (interfaces : List Interface) (name : InterfaceName) (values : List Nat) :
    Decidable (Shows interfaces name values) :=
  decidable_of_iff _ shows_iff_mem_shown.symm

theorem node?_eq_some_iff_shows (hnames : (interfaces.map (·.name)).Nodup) :
    node? interfaces = some node ↔ ∃ name values, Shows interfaces name values ∧
      (∀ other values, Shows interfaces other values → name ≤ other) ∧
      node = nodeOfAddress (String.ofList (values.map Hex.digit)) := by
  rw [node?_eq_some_iff hnames]
  constructor
  · rintro ⟨interface, hmem, text, haddress, hfirst, rfl⟩
    refine ⟨interface.name, digitValues text, ⟨interface, hmem, rfl, text, haddress, rfl⟩, ?_, ?_⟩
    · rintro _ _ ⟨other, hother, rfl, text', haddress', -⟩
      exact hfirst other hother text' haddress'
    · rw [addressDigits_eq]
  · rintro ⟨_, _, ⟨interface, hmem, rfl, text, haddress, rfl⟩, hfirst, rfl⟩
    refine ⟨interface, hmem, text, haddress, fun other hother text' haddress' => ?_, ?_⟩
    · exact hfirst _ _ ⟨other, hother, rfl, text', haddress', rfl⟩
    · rw [addressDigits_eq]

/-- Listings that show the same stand for the same node. -/
theorem node?_congr (hnames : (interfaces.map (·.name)).Nodup)
    (hnames' : (interfaces'.map (·.name)).Nodup)
    (hsame : ∀ name values, Shows interfaces' name values ↔ Shows interfaces name values) :
    node? interfaces' = node? interfaces := by
  apply Option.ext
  intro node
  rw [node?_eq_some_iff_shows hnames, node?_eq_some_iff_shows hnames']
  simp only [hsame]

end Interface

namespace NodeSource

open Interface

variable {host : Host} {interfaces : List Interface}

theorem resolve_networkInterface (hinterfaces : host.interfaces = .ok interfaces) :
    networkInterface.resolve host =
      match node? interfaces with
      | some node => .ok node
      | none => .error .noHardwareAddress := by
  cases hnode : node? interfaces <;> simp [resolve, hinterfaces, hnode]

/-- **The node that a host's interfaces stand for.** A host lists interfaces of which no two have
one name. If some of them count, the node is the last ten bits of the 32-bit FNV-1a hash of the
digits, in lower case, in the address of the first of these in the order of the octets of their
names; if none does, there is no hardware address, and nothing else can fail. So a listing that
shows the same names and the same values of digits of the interfaces that count has the same
outcome, whatever the order of the interfaces, whatever others are listed, and however the addresses
are written. -/
theorem resolve_first_interface (hinterfaces : host.interfaces = .ok interfaces)
    (hnames : (interfaces.map (·.name)).Nodup) :
    (∀ node, networkInterface.resolve host = .ok node ↔
      ∃ interface ∈ interfaces, ∃ text, interface.HasAddress text ∧
        (∀ other ∈ interfaces, ∀ text, other.HasAddress text → interface.name ≤ other.name) ∧
        (node : Nat) =
          ((String.ofList ((text.toList.filter Hex.isDigit).map Char.toLower)).toUTF8.toList.foldl
            (fun hash octet => (hash ^^^ octet.toUInt32) * 0x01000193) (0x811c9dc5 : UInt32) &&&
              1023).toNat) ∧
    (∀ node, networkInterface.resolve host = .ok node → (node : Nat) ≤ 1023) ∧
    (networkInterface.resolve host = .error .noHardwareAddress ↔
      ∀ interface ∈ interfaces, ∀ text, ¬interface.HasAddress text) ∧
    (∀ e, networkInterface.resolve host = .error e → e = .noHardwareAddress) ∧
    ∀ (host' : Host) interfaces', host'.interfaces = .ok interfaces' →
      (interfaces'.map (·.name)).Nodup →
      (∀ name values, Shows interfaces' name values ↔ Shows interfaces name values) →
      networkInterface.resolve host' = networkInterface.resolve host := by
  rw [resolve_networkInterface hinterfaces]
  refine ⟨fun node => ?_, fun node _ => Nat.le_of_lt_succ node.isLt, ?_, fun e => ?_,
    fun host' interfaces' hinterfaces' hnames' hsame => ?_⟩
  · have hhash (text : String) : (node : Nat) =
        ((String.ofList ((text.toList.filter Hex.isDigit).map Char.toLower)).toUTF8.toList.foldl
          (fun hash octet => (hash ^^^ octet.toUInt32) * 0x01000193) (0x811c9dc5 : UInt32) &&&
            1023).toNat ↔ node = nodeOfAddress (addressDigits text) := by
      rw [← Fin.val_inj, nodeOfAddress_eq_and]
      rfl
    simp only [hhash]
    rw [← node?_eq_some_iff hnames]
    cases node? interfaces <;> simp
  · rw [← node?_eq_none_iff]
    cases node? interfaces <;> simp
  · cases node? interfaces with
    | none => exact fun h => (Except.error.inj h).symm
    | some node => exact fun h => nomatch h
  · rw [resolve_networkInterface hinterfaces', node?_congr hnames hnames' hsame]

/-- The same wires listed in another order, with one that has no address, and the address of the
first one written in another way. -/
def rewires : List Interface :=
  [⟨"lo", none⟩, ⟨"docker0", none⟩, ⟨"eth0", some " 0a-1B\n".toUTF8.toList⟩]

/-- What the general statement says of these two listings: both give the node of the digits
`0a1b`. -/
theorem resolve_first_interface_rewired :
    networkInterface.resolve { interfaces := .ok rewires } =
        networkInterface.resolve Generator.wired ∧
      networkInterface.resolve Generator.wired = .ok ⟨505, by decide⟩ := by
  have hwired : Generator.wired.interfaces = .ok Generator.wires := rfl
  have hshown : shown rewires = shown Generator.wires := by decide +kernel
  have hwire : HasAddress ⟨"eth0", some "0A:1b".toUTF8.toList⟩ "0A:1b" :=
    ⟨by decide +kernel, ⟨_, rfl, by decide +kernel⟩, 'A', by decide, by decide, by decide⟩
  have hfirst : ∀ other ∈ Generator.wires, ("eth0" : InterfaceName) ≤ other.name := by
    decide +kernel
  obtain ⟨hnode, -, -, -, hsame⟩ := resolve_first_interface hwired (by decide +kernel)
  constructor
  · refine hsame _ _ rfl (by decide +kernel) fun name values => ?_
    rw [shows_iff_mem_shown, shows_iff_mem_shown, hshown]
  · exact (hnode _).2 ⟨_, List.mem_cons_self, _, hwire, fun other hother _ _ => hfirst other hother,
      by decide +kernel⟩

end NodeSource

end ChatRelay
