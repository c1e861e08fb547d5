/-
This file proves which hosted services share an agent id. What is hashed is the node, the name and
the version with nothing in between. The node has a fixed length, and dots tell the components of
the version apart, but nothing tells a name that ends in digits from the major version after it:
leading digits of the version can just as well be the last of the name. Services that differ in
such a way share an agent id; any others share one only if the hash collides.
-/

import ServiceDiscovery.Hosting
import ServiceDiscovery.Proofs.Hex
import ServiceDiscovery.Proofs.VersionText

namespace ServiceDiscovery

/-! ### Texts with a separator -/

namespace Text

variable {separator : Char} {first second rest others : List Char}

theorem eq_nil_of_separated (absent : separator ∉ rest)
    (same : separator :: rest = first ++ separator :: others) : first = [] := by
  cases first with
  | nil => rfl
  | cons char more =>
    obtain ⟨rfl, rfl⟩ := List.cons.inj same
    exact absurd (List.mem_append_right more List.mem_cons_self) absent

/-- The last separator is where a text splits, whatever is in front of it. -/
theorem separated_inj (absent : separator ∉ rest) (alsoAbsent : separator ∉ others) :
    first ++ separator :: rest = second ++ separator :: others ↔
      first = second ∧ rest = others := by
  constructor
  · intro same
    rcases List.append_eq_append_iff.mp same with ⟨middle, rfl, back⟩ | ⟨middle, rfl, back⟩
    · obtain rfl := eq_nil_of_separated absent back
      exact ⟨(List.append_nil first).symm, (List.cons.inj back).2⟩
    · obtain rfl := eq_nil_of_separated alsoAbsent back
      exact ⟨List.append_nil second, (List.cons.inj back).2.symm⟩
  · rintro ⟨rfl, rfl⟩
    rfl

end Text

/-! ### Names and versions without a separator -/

namespace Identity

variable {first second : Identity}

/-- The name of the first service takes in some leading digits of the major version of the second,
and the remaining digits are its own major version. -/
structure Absorbs (first second : Identity) : Prop where
  digits : ∃ digits, digits ≠ [] ∧ first.name.toList = second.name.toList ++ digits ∧
    Text.decimal second.version.major.toNat = digits ++ Text.decimal first.version.major.toNat
  minor : first.version.minor = second.version.minor
  patch : first.version.patch = second.version.patch

/-- The name with the version right after it. -/
def unseparated (identity : Identity) : String :=
  identity.name ++ identity.version.display

/-- The name and the first of the numbers after it. -/
def front (identity : Identity) : List Char :=
  identity.name.toList ++ Text.decimal identity.version.major.toNat

theorem toList_unseparated (identity : Identity) :
    identity.unseparated.toList = identity.front ++
      '.' :: Text.decimal identity.version.minor.toNat ++
      '.' :: Text.decimal identity.version.patch.toNat := by
  rw [unseparated, String.toList_append, Version.display, String.toList_ofList]
  simp only [Version.toChars, Version.components, Components.toChars, front, List.append_assoc]

theorem decimal_toNat_inj {first second : UInt32} :
    Text.decimal first.toNat = Text.decimal second.toNat ↔ first = second :=
  Text.decimal_injective.eq_iff.trans UInt32.toNat_inj

theorem unseparated_inj :
    first.unseparated = second.unseparated ↔ first.front = second.front ∧
      first.version.minor = second.version.minor ∧
        first.version.patch = second.version.patch := by
  rw [← String.toList_inj, toList_unseparated, toList_unseparated,
    Text.separated_inj (Components.dot_not_mem_decimal _) (Components.dot_not_mem_decimal _),
    Text.separated_inj (Components.dot_not_mem_decimal _) (Components.dot_not_mem_decimal _),
    decimal_toNat_inj, decimal_toNat_inj, and_assoc]

theorem Absorbs.unseparated_eq (absorbs : first.Absorbs second) :
    first.unseparated = second.unseparated := by
  obtain ⟨⟨digits, _, longer, major⟩, minor, patch⟩ := absorbs
  refine unseparated_inj.mpr ⟨?_, minor, patch⟩
  rw [front, front, longer, major, List.append_assoc]

/-- The name that goes further takes in digits of the version after the other. -/
theorem eq_or_absorbs {digits : List Char} (name : first.name.toList = second.name.toList ++ digits)
    (major : Text.decimal second.version.major.toNat =
      digits ++ Text.decimal first.version.major.toNat)
    (minor : first.version.minor = second.version.minor)
    (patch : first.version.patch = second.version.patch) :
    first = second ∨ first.Absorbs second := by
  by_cases none : digits = []
  · subst none
    left
    have named : first.name = second.name := String.toList_inj.mp (name.trans (List.append_nil _))
    have numbered := decimal_toNat_inj.mp major.symm
    obtain ⟨firstName, firstMajor, firstMinor, firstPatch⟩ := first
    obtain ⟨secondName, secondMajor, secondMinor, secondPatch⟩ := second
    cases named
    cases numbered
    cases minor
    cases patch
    rfl
  · exact Or.inr ⟨⟨digits, none, name, major⟩, minor, patch⟩

theorem unseparated_eq_iff :
    first.unseparated = second.unseparated ↔
      first = second ∨ first.Absorbs second ∨ second.Absorbs first := by
  constructor
  · intro same
    obtain ⟨front, minor, patch⟩ := unseparated_inj.mp same
    -- One of the names goes on where the other one ends, by digits that begin the other version.
    rcases List.append_eq_append_iff.mp front with ⟨digits, name, major⟩ | ⟨digits, name, major⟩
    · rcases eq_or_absorbs name major minor.symm patch.symm with same | absorbs
      · exact Or.inl same.symm
      · exact Or.inr (Or.inr absorbs)
    · rcases eq_or_absorbs name major minor patch with same | absorbs
      · exact Or.inl same
      · exact Or.inr (Or.inl absorbs)
  · rintro (rfl | absorbs | absorbs)
    · rfl
    · exact absorbs.unseparated_eq
    · exact absorbs.unseparated_eq.symm

end Identity

/-! ### What is hashed and its hash -/

namespace Hosting

variable {node other : NodeId} {first second : Identity}

/-- Different bytes with the same first half of their hash. -/
def Collide (first second : Bytes) : Prop :=
  first ≠ second ∧ (Blake3.hash first).bytes.take 16 = (Blake3.hash second).bytes.take 16

theorem agentInput_eq (node : NodeId) (identity : Identity) :
    agentInput node identity = node.bytes ++ Utf8.encode identity.unseparated := by
  rw [agentInput, List.append_assoc, ← Utf8.encode_append]
  rfl

theorem agentInput_inj :
    agentInput node first = agentInput other second ↔
      node = other ∧ first.unseparated = second.unseparated := by
  rw [agentInput_eq, agentInput_eq]
  constructor
  · intro same
    obtain ⟨nodes, texts⟩ := List.append_inj same (node.length_bytes.trans other.length_bytes.symm)
    refine ⟨?_, Utf8.encode_injective texts⟩
    cases node
    cases other
    cases nodes
    rfl
  · rintro ⟨rfl, same⟩
    rw [same]

theorem agentFor_inj :
    agentFor node first = agentFor other second ↔
      (Blake3.hash (agentInput node first)).bytes.take 16 =
        (Blake3.hash (agentInput other second)).bytes.take 16 :=
  Hex.encode_injective.eq_iff

/-- Which services share an agent id. The same bytes are hashed for two services if and only if the
node is the same and so is the service, or the name of one service takes in leading digits of the
major version of the other. The agent ids of two services are the same if and only if the
same bytes are hashed for them, or different bytes whose hashes collide in their first halves. -/
theorem agentFor_eq_iff (node other : NodeId) (first second : Identity) :
    (agentInput node first = agentInput other second ↔
      node = other ∧ (first = second ∨ first.Absorbs second ∨ second.Absorbs first)) ∧
    (agentFor node first = agentFor other second ↔
      (node = other ∧ (first = second ∨ first.Absorbs second ∨ second.Absorbs first)) ∨
        Collide (agentInput node first) (agentInput other second)) := by
  have inputs : agentInput node first = agentInput other second ↔
      node = other ∧ (first = second ∨ first.Absorbs second ∨ second.Absorbs first) :=
    agentInput_inj.trans (and_congr_right fun _ => Identity.unseparated_eq_iff)
  refine ⟨inputs, ?_⟩
  rw [← inputs, agentFor_inj]
  constructor
  · intro halves
    by_cases same : agentInput node first = agentInput other second
    · exact Or.inl same
    · exact Or.inr ⟨same, halves⟩
  · rintro (same | ⟨_, halves⟩)
    · rw [same]
    · exact halves

/-- Version one of one service is answered for under the same agent id as version eleven of
another, and one node can host both. -/
theorem agentFor_shared :
    let node := Bytes32.filled 0x42
    let first : Identity := ⟨"calc1", ⟨1, 0, 0⟩⟩
    let second : Identity := ⟨"calc", ⟨11, 0, 0⟩⟩
    first ≠ second ∧ agentInput node first = agentInput node second ∧
      agentFor node first = agentFor node second ∧
      (registerAll node Instant.zero Registry.empty 0
        [⟨"calc1", "1.0"⟩, ⟨"calc", "11.0"⟩]).result.toOption = some [first, second] := by
  intro node first second
  have absorbs : first.Absorbs second :=
    ⟨⟨['1'], by decide, by decide, by simp [Text.decimal, Text.digitChar, first, second]⟩, rfl, rfl⟩
  have same : agentInput node first = agentInput node second :=
    agentInput_inj.mpr ⟨rfl, absorbs.unseparated_eq⟩
  exact ⟨by decide, same, agentFor_inj.mpr (by rw [same]), by rfl⟩

end Hosting

end ServiceDiscovery
