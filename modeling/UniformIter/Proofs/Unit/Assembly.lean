import UniformIter.Proofs.Registry.Entries
import UniformIter.Unit.Renderer

/-!
# How units are made

A renderer is asked for one part of a unit after another. Either every part has a text, and the
unit is all of them one behind the other, or the first part that has none is the last one that
is asked for, and its failure is all that remains (`Made`, `Renderer.making_made`). No part is
asked for twice. So a renderer may as well look at what is written when it is asked for a part:
one that does not look makes the same units (`Look.making_renderer`).
-/

namespace UniformIter

/-- Every entry with an adapter is a part once, behind the preamble and the dispatch function. -/
theorem nodup_unitParts (r : Registry) : (unitParts r).Nodup := by
  have hadapters : (r.supported.map UnitPart.adapter).Nodup :=
    (List.Nodup.of_map _ r.nodup_supported).map fun _ _ => UnitPart.adapter.inj
  simp [unitParts, hadapters]

/-- How the making of parts ends behind what was `written` before: every part has a text, or one
has none and those before it do. -/
inductive Made (r : Renderer) (s : Settings) (written : String) (parts : List UnitPart) :
    Renderer.Assembly → Prop where
  | whole {texts : List String}
      (each : List.Forall₂ (fun p text => r.part s p = .ok text) parts texts) :
      Made r s written parts ⟨parts, .ok (written ++ String.join texts)⟩
  | stopped {before after : List UnitPart} {p : UnitPart} {f : Failure}
      (split : parts = before ++ p :: after) (each : ∀ q ∈ before, ∃ text, r.part s q = .ok text)
      (fails : r.part s p = .error f) :
      Made r s written parts ⟨before ++ [p], .error f⟩

namespace Made

variable {r : Renderer} {s : Settings} {written text : String} {p : UnitPart}
  {parts : List UnitPart} {a : Renderer.Assembly}

/-- A part that has a text comes before what is made behind it. -/
theorem behind (hp : r.part s p = .ok text) (h : Made r s (written ++ text) parts a) :
    Made r s written (p :: parts) ⟨p :: a.asked, a.outcome⟩ := by
  cases h with
  | @whole texts each =>
    have htext : written ++ text ++ String.join texts = written ++ String.join (text :: texts) := by
      rw [String.join_cons, String.append_assoc]
    rw [htext]
    exact .whole (.cons hp each)
  | @stopped before after q f split each fails =>
    have hsplit : p :: parts = (p :: before) ++ q :: after := congrArg (p :: ·) split
    have htexts : ∀ q ∈ p :: before, ∃ text, r.part s q = .ok text :=
      List.forall_mem_cons.2 ⟨⟨text, hp⟩, each⟩
    exact Made.stopped hsplit htexts fails

/-- No part is left out before the last one that is asked for. -/
theorem isPrefix (h : Made r s written parts a) : a.asked <+: parts := by
  cases h with
  | whole each => exact List.prefix_rfl
  | @stopped before after p f split each fails => exact ⟨after, by rw [split]; simp⟩

end Made

namespace Renderer

variable {r : Renderer} {s : Settings} {written text : String} {p : UnitPart} {f : Failure}
  {parts : List UnitPart}

theorem assemble_cons_ok (hp : r.part s p = .ok text) :
    r.assemble s written (p :: parts) =
      ⟨p :: (r.assemble s (written ++ text) parts).asked,
        (r.assemble s (written ++ text) parts).outcome⟩ := by
  rw [assemble, hp]

theorem assemble_cons_error (hp : r.part s p = .error f) :
    r.assemble s written (p :: parts) = ⟨[p], .error f⟩ := by
  rw [assemble, hp]

theorem assemble_made (r : Renderer) (s : Settings) (written : String) (parts : List UnitPart) :
    Made r s written parts (r.assemble s written parts) := by
  induction parts generalizing written with
  | nil =>
    have h : Made r s written [] ⟨[], .ok (written ++ String.join [])⟩ := .whole .nil
    rw [show written ++ String.join [] = written from String.append_empty] at h
    exact h
  | cons p parts ih =>
    cases hp : r.part s p with
    | error f =>
      rw [assemble_cons_error hp]
      exact Made.stopped (List.nil_append _).symm (List.forall_mem_nil _) hp
    | ok text =>
      rw [assemble_cons_ok hp]
      exact (ih (written ++ text)).behind hp

/-- The making of a whole unit. -/
def making (r : Renderer) (s : Settings) : Assembly := r.assemble s "" (unitParts s.registry)

theorem unit_eq_outcome (r : Renderer) (s : Settings) : r.unit s = (r.making s).outcome := rfl

theorem making_made (r : Renderer) (s : Settings) :
    Made r s "" (unitParts s.registry) (r.making s) :=
  r.assemble_made s "" (unitParts s.registry)

theorem nodup_asked (r : Renderer) (s : Settings) : (r.making s).asked.Nodup :=
  (nodup_unitParts s.registry).sublist (r.making_made s).isPrefix.sublist

end Renderer

/-! ## Parts that depend on what is written before them -/

/-- What a renderer writes that looks at all that is written when it is asked for a part. -/
def Look := Settings → UnitPart → String → Except Failure String

namespace Look

variable {look : Look} {s : Settings} {written text : String} {p q : UnitPart} {f : Failure}
  {parts : List UnitPart}

/-- Asks for one part after another, up to the first that fails, and shows each of them what is
`written` so far. -/
def assemble (look : Look) (s : Settings) (written : String) :
    List UnitPart → Renderer.Assembly
  | [] => ⟨[], .ok written⟩
  | p :: more =>
    match look s p written with
    | .error f => ⟨[p], .error f⟩
    | .ok text =>
      let rest := look.assemble s (written ++ text) more
      ⟨p :: rest.asked, rest.outcome⟩

/-- What is written when a part is asked for. -/
def shown (look : Look) (s : Settings) (written : String) (p : UnitPart) :
    List UnitPart → String
  | [] => written
  | q :: more =>
    if q = p then written
    else
      match look s q written with
      | .error _ => written
      | .ok text => look.shown s (written ++ text) p more

theorem shown_cons_self : look.shown s written p (p :: parts) = written := by
  rw [shown, if_pos rfl]

theorem shown_cons_of_ne (hne : q ≠ p) (hq : look s q written = .ok text) :
    look.shown s written p (q :: parts) = look.shown s (written ++ text) p parts := by
  rw [shown, if_neg hne, hq]

/-- The renderer that knows what every part would be shown. -/
def renderer (look : Look) (name description extension : String) : Renderer :=
  let part s p := look s p (look.shown s "" p (unitParts s.registry))
  ⟨name, description, extension, fun s => part s .preamble, fun s => part s .dispatch,
    fun s e => part s (.adapter e)⟩

end Look

/-- A renderer whose parts are those that are written on looking assembles the same, because no
part is shown two texts. -/
theorem Renderer.assemble_eq_look {r : Renderer} {look : Look} {s : Settings}
    {written : String} {parts : List UnitPart} (hnodup : parts.Nodup)
    (h : ∀ p ∈ parts, r.part s p = look s p (look.shown s written p parts)) :
    r.assemble s written parts = look.assemble s written parts := by
  induction parts generalizing written with
  | nil => rfl
  | cons p parts ih =>
    obtain ⟨hnew, hnodup⟩ := List.nodup_cons.1 hnodup
    have hp : r.part s p = look s p written := by
      rw [h p List.mem_cons_self, Look.shown_cons_self]
    cases hlook : look s p written with
    | error f => rw [assemble_cons_error (hp.trans hlook), Look.assemble, hlook]
    | ok text =>
      have hrest : r.assemble s (written ++ text) parts =
          look.assemble s (written ++ text) parts := by
        refine ih hnodup fun q hq => ?_
        have hne : p ≠ q := fun heq => hnew (heq ▸ hq)
        rw [h q (List.mem_cons_of_mem p hq), Look.shown_cons_of_ne hne hlook]
      rw [assemble_cons_ok (hp.trans hlook), hrest, Look.assemble, hlook]

/-- Whatever a renderer makes of what it is shown, one that is not shown anything makes the same
units. -/
theorem Look.making_renderer (look : Look) (name description extension : String) (s : Settings) :
    (look.renderer name description extension).making s =
      look.assemble s "" (unitParts s.registry) := by
  refine Renderer.assemble_eq_look (nodup_unitParts s.registry) fun p _ => ?_
  cases p <;> rfl

end UniformIter
