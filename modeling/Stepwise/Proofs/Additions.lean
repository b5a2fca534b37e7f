import Stepwise.Feature.Basic
import Stepwise.Proofs.Placeholders

/-!
# A filled text stays as it is

To fill a text nothing is looked at but the texts of the keys that its placeholders ask
for (`Template.AsksFor`). If a second lookup has for each of these keys the text that the
first one has, the text is filled in the same way, and it does not matter where the second
one has more (`Template.fill_mono`). The keys are looked up one after the other, so the
argument goes along the pieces of the text.

Both of the ways in which more may be found are of this kind. What else a store holds is
not asked for, and the environment is looked at for a key without a value only. A store
that fills a text by itself has a value for each of the keys, so the environment has no say.
For the same reason a text that cannot be filled with the environment cannot be filled
without it, though the first key that is missed may then be another one.
-/

namespace Stepwise

namespace Template

/-- A placeholder of the text has this key. -/
def AsksFor (text key : String) : Prop :=
  ∃ before part, Occurs text.toList before part key

theorem mem_pieces_iff_asksFor {text key : String} :
    Piece.placeholder key ∈ pieces text.toList ↔ AsksFor text key := by
  obtain ⟨parts, hcut, hpieces⟩ := exists_isCut text.toList
  rw [← hpieces, List.mem_map]
  constructor
  · rintro ⟨p, hp, hkey⟩
    cases p with
    | char c => cases hkey
    | hole chars key' =>
        cases hkey
        obtain ⟨pre, post, hparts⟩ := List.append_of_mem hp
        exact ⟨_, chars, (hcut.occurs_iff _ chars key).mpr ⟨pre, post, hparts, rfl⟩⟩
  · rintro ⟨before, part, hoccurs⟩
    obtain ⟨pre, post, rfl, -⟩ := (hcut.occurs_iff before part key).mp hoccurs
    exact ⟨.hole part key, by simp, rfl⟩

section Lookups

variable {textOf textOf' : String → Option String}

theorem fillPieces_mono {ps : List Piece} {cs : List Char}
    (hkeys : ∀ key value, .placeholder key ∈ ps → textOf key = some value →
      textOf' key = some value)
    (h : fillPieces textOf ps = .ok cs) : fillPieces textOf' ps = .ok cs := by
  induction ps generalizing cs with
  | nil => exact h
  | cons p ps ih =>
      have hrest : ∀ cs', fillPieces textOf ps = .ok cs' → fillPieces textOf' ps = .ok cs' :=
        fun cs' => ih fun key value hkey => hkeys key value (List.mem_cons_of_mem p hkey)
      cases p with
      | char c =>
          rw [fillPieces] at h ⊢
          split at h
          · next hcs => rw [hrest _ hcs]; exact h
          · cases h
      | placeholder key =>
          rw [fillPieces] at h ⊢
          split at h
          · -- a key without a text ended the first attempt
            cases h
          · next value hvalue =>
              rw [hkeys key value List.mem_cons_self hvalue]
              split at h
              · next hcs => rw [hrest _ hcs]; exact h
              · cases h

/-- A lookup that finds what another one finds fills a text as that one does. -/
theorem fill_mono {text out : String}
    (hkeys : ∀ key value, AsksFor text key → textOf key = some value →
      textOf' key = some value)
    (h : fill textOf text = .ok out) : fill textOf' text = .ok out := by
  rw [fill] at h ⊢
  split at h
  · next cs hcs =>
      have hkeys' : ∀ key value, .placeholder key ∈ pieces text.toList →
          textOf key = some value → textOf' key = some value :=
        fun key value hkey => hkeys key value (mem_pieces_iff_asksFor.mp hkey)
      rw [fillPieces_mono hkeys' hcs]
      exact h
  · cases h

end Lookups

end Template

open Template (AsksFor)

/-- A placeholder of the step, in its text or in its argument, has this key. -/
def Step.AsksFor (s : Step) (key : String) : Prop :=
  Template.AsksFor s.text key ∨ ∃ argument ∈ s.argument, Template.AsksFor argument key

/-- The stores hold the same value, or none, under each of these keys. -/
def Store.AgreesOn (keys : String → Prop) (s s' : Store) : Prop :=
  ∀ key, keys key → s'.get key = s.get key

namespace Sources

/-- The second sources find every text which the first ones find for these keys. -/
def Extends (keys : String → Prop) (a b : Sources) : Prop :=
  ∀ key value, keys key → a.textOf key = some value → b.textOf key = some value

/-- A store that has the texts by itself is not overruled: not by the environment, and not
by values under other keys. -/
theorem extends_of_agreesOn {keys : String → Prop} {s s' : Store}
    (h : s.AgreesOn keys s') (env env' : Environment) (allowed : Bool) :
    Extends keys ⟨s, env, false⟩ ⟨s', env', allowed⟩ := by
  intro key value hkey htext
  simp only [textOf] at htext ⊢
  rw [h key hkey]
  split at htext
  · exact htext
  · cases htext

theorem fill_of_extends {a b : Sources} {text out : String} (hext : Extends (AsksFor text) a b)
    (h : a.fill text = .ok out) : b.fill text = .ok out := by
  rw [Sources.fill, lookup_eq_textOf] at h ⊢
  exact Template.fill_mono hext h

theorem bind_of_extends {a b : Sources} {step : Step} {bound : BoundStep}
    (hext : Extends step.AsksFor a b) (h : step.bind a = .ok bound) : step.bind b = .ok bound := by
  have htext : Extends (AsksFor step.text) a b :=
    fun key value hkey => hext key value (.inl hkey)
  rw [Step.bind] at h ⊢
  split at h
  · cases h
  · next text hfill =>
      rw [fill_of_extends htext hfill]
      cases hargument : step.argument with
      | none => rw [hargument] at h; exact h
      | some argument =>
          have harg : Extends (AsksFor argument) a b :=
            fun key value hkey => hext key value (.inr ⟨argument, hargument, hkey⟩)
          rw [hargument] at h
          simp only at h ⊢
          split at h
          · cases h
          · next hfill' => rw [fill_of_extends harg hfill']; exact h

/-- A text that a store fills by itself is filled in the same way by every store with the
same values under the keys of its placeholders, with and without an environment, and so is
a step with its text and its argument. Where a store fails with an environment to help, it
fails alone. -/
theorem fill_stable (s : Store) (env : Environment) :
    (∀ text out, (Sources.mk s env false).fill text = .ok out →
      ∀ s', s.AgreesOn (AsksFor text) s' → ∀ env' allowed,
        (Sources.mk s' env' allowed).fill text = .ok out) ∧
    (∀ text missing, (Sources.mk s env true).fill text = .error missing →
      ∃ missing', (Sources.mk s env false).fill text = .error missing') ∧
    (∀ (step : Step) bound, step.bind ⟨s, env, false⟩ = .ok bound →
      ∀ s', s.AgreesOn step.AsksFor s' → ∀ env' allowed,
        step.bind ⟨s', env', allowed⟩ = .ok bound) ∧
    (∀ (step : Step) missing, step.bind ⟨s, env, true⟩ = .error missing →
      ∃ missing', step.bind ⟨s, env, false⟩ = .error missing') := by
  have hself : ∀ keys, Extends keys ⟨s, env, false⟩ ⟨s, env, true⟩ :=
    fun keys => extends_of_agreesOn (fun key _ => rfl) env env true
  refine ⟨fun text out h s' hs' env' allowed => ?_, fun text missing h => ?_,
    fun step bound h s' hs' env' allowed => ?_, fun step missing h => ?_⟩
  · exact fill_of_extends (extends_of_agreesOn hs' env env' allowed) h
  · cases halone : (Sources.mk s env false).fill text with
    | error missing' => exact ⟨missing', rfl⟩
    | ok out =>
        rw [fill_of_extends (hself _) halone] at h
        cases h
  · exact bind_of_extends (extends_of_agreesOn hs' env env' allowed) h
  · cases halone : step.bind ⟨s, env, false⟩ with
    | error missing' => exact ⟨missing', rfl⟩
    | ok bound =>
        rw [bind_of_extends (hself _) halone] at h
        cases h

/-- Placeholders next to each other, one of them twice. A value under a key that none of
them has, and a variable with the name of one of them, make no difference. -/
theorem fill_stable_added :
    let s := Store.ofList [("a", .ofInt 1), ("b", .text "x")]
    let s' := (s.set "c" (.text "y")).2
    let text := "{{a}}{{ a }}-{{b}}"
    (Sources.mk s Environment.empty false).fill text = .ok "11-x" ∧
      (Sources.mk s' ⟨[("a", "z")]⟩ true).fill text = .ok "11-x" := by
  intro s s' text
  have hfill : (Sources.mk s Environment.empty false).fill text = .ok "11-x" := by decide +kernel
  refine ⟨hfill, (fill_stable s _).1 text _ hfill s' (fun key hkey => ?_) _ true⟩
  have hpieces : Template.pieces text.toList =
      [.placeholder "a", .placeholder "a", .char '-', .placeholder "b"] := by decide +kernel
  rw [← Template.mem_pieces_iff_asksFor, hpieces] at hkey
  simp only [List.mem_cons, Template.Piece.placeholder.injEq, reduceCtorEq, List.not_mem_nil,
    or_false, false_or] at hkey
  rcases hkey with rfl | rfl | rfl <;> rfl

end Sources

end Stepwise
