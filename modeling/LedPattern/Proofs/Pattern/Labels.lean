import LedPattern.Proofs.Pattern.Encode
import Mathlib.Data.List.ReduceOption
/-!
What the parameters of a program are made from. The labels of an effect say what each byte holds, and
`Pattern.labelled` is the byte that belongs to a label, so the parameters are the labels with their
bytes put in. A byte then depends on the quantity that its label names, on the speed as well where
that is the rhythm, and on nothing else; and a program on no more than its labels and its colours.
-/
namespace LedPattern

theorem Effect.mem_all (e : Effect) : e ∈ all := by cases e <;> decide

theorem Slots.toList_inj {α : Type} {s t : Slots α} : s.toList = t.toList ↔ s = t := by
  obtain ⟨s₁, s₂, s₃, s₄⟩ := s
  obtain ⟨t₁, t₂, t₃, t₄⟩ := t
  simp [toList]

/-- The quantities that the byte of a quantity is made from. -/
def Quantity.inputs : Quantity → List Quantity
  | rhythm => [rhythm, speed]
  | q => [q]

theorem Quantity.mem_inputs_iff {q r : Quantity} :
    r ∈ q.inputs ↔ r = q ∨ q = rhythm ∧ r = speed := by
  cases q <;> simp [inputs]

namespace Pattern

/-- The patterns have the same value for each of the quantities. -/
def AgreeOn (quantities : List Quantity) (p q : Pattern) : Prop :=
  ∀ r ∈ quantities, p.get r = q.get r

/-- The byte of a quantity in a program of the effect. A wave may be without eye and tail, which a
scanner always has. -/
def labelled (p : Pattern) (effect : Effect) : Quantity → UInt8
  | .density => saturate (given p.density 128)
  | .cooling => saturate (given p.cooling 55)
  | .sparking => saturate (given p.sparking 120)
  | .waveCount => saturate (min 10 (given p.waveCount 3))
  | .rhythm => saturate p.pulseRhythm
  | .eyeSize => saturate (if effect = .scanner then given p.eyeSize 2 else p.eyeSize.toInt)
  | .tailLength => saturate (if effect = .scanner then given p.tailLength 4 else p.tailLength.toInt)
  | .direction => directionByte p.direction
  | .brightness => level p.brightness defaultBrightness
  | .speed => level p.speed defaultSpeed
  | .style => 0

/-- The byte of a parameter with the label; without one it is zero. -/
def slotByte (p : Pattern) (effect : Effect) : Option Quantity → UInt8
  | some q => p.labelled effect q
  | none => 0

theorem toList_params (p : Pattern) (effect : Effect) :
    (p.params effect).toList = effect.labels.toList.map (p.slotByte effect) := by
  cases effect <;> rfl

theorem getElem?_params (p : Pattern) (effect : Effect) (i : Nat) :
    (p.params effect).toList[i]? = effect.labels.toList[i]?.map (p.slotByte effect) := by
  rw [toList_params, List.getElem?_map]

theorem labelled_of_agree {p q : Pattern} {r : Quantity} (h : AgreeOn r.inputs p q)
    (effect : Effect) : p.labelled effect r = q.labelled effect r := by
  have hself : p.get r = q.get r := h r (Quantity.mem_inputs_iff.mpr (.inl rfl))
  cases r with
  | rhythm =>
    have hrhythm : p.rhythm = q.rhythm := hself
    have hspeed : p.speed = q.speed := h .speed (by decide)
    simp only [labelled, pulseRhythm, hrhythm, hspeed]
  | style => rfl
  | _ =>
    simp only [get] at hself
    simp only [labelled, hself]

theorem getElem?_params_of_agree {p q : Pattern} {effect : Effect} {i : Nat}
    (h : ∀ r, effect.labels.toList[i]? = some (some r) → AgreeOn r.inputs p q) :
    (p.params effect).toList[i]? = (q.params effect).toList[i]? := by
  rw [getElem?_params, getElem?_params]
  rcases hlabel : effect.labels.toList[i]? with _ | _ | r
  · rw [Option.map_none, Option.map_none]
  · rw [Option.map_some, Option.map_some, slotByte, slotByte]
  · rw [Option.map_some, Option.map_some, slotByte, slotByte, labelled_of_agree (h r hlabel)]

/-- What a quantity is set to can make a difference to a parameter. -/
def Reaches (effect : Effect) (i : Nat) (r : Quantity) : Prop :=
  ∃ (p : Pattern) (v : Int32),
    ((p.set r v).params effect).toList[i]? ≠ (p.params effect).toList[i]?

/-- A value that is no default of any effect, odd, and too high for a number of waves. -/
theorem labelled_set_ne : ∀ effect ∈ Effect.all, ∀ f ∈ Quantity.all,
    some f ∈ effect.labels.toList → ∀ r ∈ f.inputs,
      (({} : Pattern).set r 21).labelled effect f ≠ ({} : Pattern).labelled effect f := by
  decide +kernel

theorem reaches_iff (effect : Effect) (i : Nat) (r : Quantity) :
    Reaches effect i r ↔ ∃ f, effect.labels.toList[i]? = some (some f) ∧ r ∈ f.inputs := by
  constructor
  · rintro ⟨p, v, hne⟩
    by_contra hnone
    refine hne (getElem?_params_of_agree fun f hlabel t ht => ?_)
    have htr : t ≠ r := fun htr => hnone ⟨f, hlabel, htr ▸ ht⟩
    rw [get_set, if_neg htr]
  · rintro ⟨f, hlabel, hr⟩
    refine ⟨{}, 21, ?_⟩
    rw [getElem?_params, getElem?_params, hlabel, Option.map_some, Option.map_some, slotByte,
      slotByte, ne_eq, Option.some.injEq]
    exact labelled_set_ne effect effect.mem_all f f.mem_all (List.mem_of_getElem? hlabel) r hr

end Pattern

namespace Effect

/-- The quantities that a program of the effect holds. -/
def encoded (effect : Effect) : List Quantity :=
  .brightness :: .speed :: effect.labels.toList.reduceOption

theorem mem_encoded_iff {effect : Effect} {r : Quantity} :
    r ∈ effect.encoded ↔ r = .brightness ∨ r = .speed ∨ some r ∈ effect.labels.toList := by
  rw [encoded, List.mem_cons, List.mem_cons, List.reduceOption_mem_iff]

end Effect

namespace Pattern

theorem params_of_agree {p q : Pattern} {effect : Effect} (h : AgreeOn effect.encoded p q) :
    p.params effect = q.params effect := by
  apply Slots.toList_inj.mp
  apply List.ext_getElem?
  intro i
  refine getElem?_params_of_agree fun f hlabel => ?_
  have hself : f ∈ effect.encoded :=
    Effect.mem_encoded_iff.mpr (.inr (.inr (List.mem_of_getElem? hlabel)))
  intro r hr
  rcases Quantity.mem_inputs_iff.mp hr with rfl | ⟨-, rfl⟩
  · exact h _ hself
  · exact h _ (Effect.mem_encoded_iff.mpr (.inr (.inl rfl)))

theorem programWith_of_agree {p q : Pattern} {effect : Effect}
    (hpalette : paletteColors p.colors = paletteColors q.colors)
    (hsecondary : p.secondaryColor = q.secondaryColor) (h : AgreeOn effect.encoded p q) :
    p.programWith effect = q.programWith effect := by
  have hbrightness : p.brightness = q.brightness := h _ (Effect.mem_encoded_iff.mpr (.inl rfl))
  have hspeed : p.speed = q.speed := h _ (Effect.mem_encoded_iff.mpr (.inr (.inl rfl)))
  simp only [programWith, hbrightness, hspeed, params_of_agree h, hpalette, hsecondary]

theorem encode_of_agree {p q : Pattern} {effect : Effect}
    (hp : Effect.ofName? p.effect = some effect) (hq : Effect.ofName? q.effect = some effect)
    (hcolors : p.colors = q.colors) (hbackground : p.backgroundToken = q.backgroundToken)
    (hagree : AgreeOn effect.encoded p q) :
    ∃ program w, p.encode = .ok (program, w) ∧ q.encode = .ok (program, w) := by
  have hsecondary : p.secondaryColor = q.secondaryColor := by
    rw [secondaryColor, secondaryColor, hbackground]
  have hprogram : p.programWith effect = q.programWith effect :=
    programWith_of_agree (congrArg paletteColors hcolors) hsecondary hagree
  have hwarnings : p.encodeWarnings = q.encodeWarnings := by
    rw [encodeWarnings, encodeWarnings, secondaryWarnings, secondaryWarnings, hbackground, hcolors]
  exact ⟨p.programWith effect, p.encodeWarnings,
    encode_eq_ok_iff.mpr ⟨effect, hp, rfl, rfl⟩,
    encode_eq_ok_iff.mpr ⟨effect, hq, hprogram, hwarnings⟩⟩

end Pattern

/-- The labels tell what the parameters are made from: a byte without a label is zero, and one with a
label changes with the quantity that the label names, with the speed where that is the rhythm, and
with no other. So what an effect has no label for never gets into its program. -/
theorem labels_tell_inputs :
    (∀ (effect : Effect) (i : Nat) (p q : Pattern),
      (effect.labels.toList[i]? = some none → (p.params effect).toList[i]? = some 0) ∧
      ∀ f, effect.labels.toList[i]? = some (some f) → p.get f = q.get f →
        (f = .rhythm → p.speed = q.speed) →
          (p.params effect).toList[i]? = (q.params effect).toList[i]?) ∧
    (∀ (effect : Effect) (i : Nat) (r : Quantity), Pattern.Reaches effect i r ↔
      ∃ f, effect.labels.toList[i]? = some (some f) ∧ (r = f ∨ f = .rhythm ∧ r = .speed)) ∧
    ∀ (p q : Pattern) (effect : Effect), Effect.ofName? p.effect = some effect →
      Effect.ofName? q.effect = some effect → p.colors = q.colors →
      p.backgroundToken = q.backgroundToken → Pattern.AgreeOn effect.encoded p q →
        ∃ program w, p.encode = .ok (program, w) ∧ q.encode = .ok (program, w) := by
  refine ⟨fun effect i p q => ⟨fun hlabel => ?_, fun f hlabel hself hspeed => ?_⟩,
    fun effect i r => ?_, fun p q effect => Pattern.encode_of_agree⟩
  · rw [Pattern.getElem?_params, hlabel, Option.map_some, Pattern.slotByte]
  · refine Pattern.getElem?_params_of_agree fun r hr t ht => ?_
    obtain rfl : f = r := Option.some.inj (Option.some.inj (hlabel.symm.trans hr))
    rcases Quantity.mem_inputs_iff.mp ht with rfl | ⟨hrhythm, rfl⟩
    · exact hself
    · exact hspeed hrhythm
  · simp only [Pattern.reaches_iff, Quantity.mem_inputs_iff]

/-- Two breathing lights that have little in common but what a pulse is made from. -/
def breathing : Pattern where
  effect := "breathe".toList
  background := some " navy".toList
  colors := ["nope".toList]
  rhythm := 42
  direction := -3
  density := 7
  style := 1

def pulsing : Pattern :=
  { breathing with
    effect := " PULSE ".toList
    name := some "calm".toList
    background := some "navy ".toList
    density := -2147483648
    waveCount := 9
    style := 0 }

theorem labels_tell_inputs_breathing :
    (breathing.params .pulse).toList[1]? = some 0 ∧
    (breathing.params .pulse).toList[0]? = (pulsing.params .pulse).toList[0]? ∧
    Pattern.Reaches .pulse 0 .speed ∧ ¬Pattern.Reaches .pulse 0 .density ∧
    ∃ program w, breathing.encode = .ok (program, w) ∧ pulsing.encode = .ok (program, w) := by
  have hslots := labels_tell_inputs.1 .pulse
  refine ⟨(hslots 1 breathing pulsing).1 rfl,
    (hslots 0 breathing pulsing).2 .rhythm rfl (by decide) fun _ => by decide, ?_, ?_, ?_⟩
  · exact (labels_tell_inputs.2.1 .pulse 0 .speed).mpr ⟨.rhythm, rfl, .inr ⟨rfl, rfl⟩⟩
  · rw [labels_tell_inputs.2.1]
    rintro ⟨f, hlabel, hinput⟩
    obtain rfl : .rhythm = f := Option.some.inj (Option.some.inj hlabel)
    exact absurd hinput (by decide)
  · exact labels_tell_inputs.2.2 breathing pulsing .pulse (by decide) (by decide) (by decide)
      (by decide) (by unfold Pattern.AgreeOn; decide)

end LedPattern
