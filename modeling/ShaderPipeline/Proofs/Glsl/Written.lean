import ShaderPipeline.Proofs.Glsl.LineComments
import ShaderPipeline.Proofs.Text.Numerals
import Mathlib.Data.List.Nodup

namespace ShaderPipeline.Glsl

open Text

variable {t line : Text}

/-- No comment starts in the text. -/
structure Live (t : Text) : Prop where
  line : ¬ lineMark <:+: t
  block : ¬ openMark <:+: t

theorem Live.of_infix {u : Text} (h : Live t) (hu : u <:+: t) : Live u :=
  ⟨fun hi => h.line (hi.trans hu), fun hi => h.block (hi.trans hu)⟩

theorem Live.append_cons {a b : Text} {c : Char} (ha : Live a) (hb : Live b)
    (hc : c ≠ '/' ∧ c ≠ '*') : Live (a ++ c :: b) := by
  have hline : c ∉ lineMark := by simp [lineMark, hc.1]
  have hopen : c ∉ openMark := by simp [openMark, hc.1, hc.2]
  exact ⟨fun h => (infix_append_cons hline h).elim ha.line hb.line,
    fun h => (infix_append_cons hopen h).elim ha.block hb.block⟩

theorem live_of_no_slash (h : '/' ∉ t) : Live t :=
  ⟨fun hi => h (hi.subset (by simp [lineMark])), fun hi => h (hi.subset (by simp [openMark]))⟩

theorem stripLine_of_live (h : Live t) : stripLine t = t := by
  rw [stripLine, dropBlocks_of_no_open h.block, before_of_not_infix h.line]

theorem live_liveLine (line : Text) : Live (liveLine line).1 := by
  have hstrip : ¬ lineMark <:+: stripLine line := not_infix_before (by decide) _
  rw [liveLine]
  cases hc : cut? openMark (stripLine line) with
  | none => exact ⟨fun h => hstrip (h.trans (infix_trim _)),
      fun h => cut?_eq_none_iff.mp hc (h.trans (infix_trim _))⟩
  | some p =>
      obtain ⟨head, rest⟩ := p
      have hp : head <+: stripLine line := by
        rw [eq_append_of_cut? hc, List.append_assoc]
        exact List.prefix_append head _
      refine ⟨fun h => hstrip ((h.trans (infix_trim _)).trans hp.isInfix), fun h => ?_⟩
      refine not_infix_of_cut? (by decide) hc ((h.trans (infix_trim _)).trans ?_)
      exact (List.prefix_append head _).isInfix

theorem exists_of_mem_liveFrom {ls : List Text} {inBlock : Bool}
    (h : t ∈ (liveFrom inBlock ls).1) : ∃ l ∈ ls, ∃ rest, rest <:+ l ∧ t = (liveLine rest).1 := by
  induction ls generalizing inBlock with
  | nil => cases inBlock <;> cases h
  | cons l ls ih =>
      have htail {b : Bool} (h : t ∈ (liveFrom b ls).1) :
          ∃ m ∈ l :: ls, ∃ rest, rest <:+ m ∧ t = (liveLine rest).1 := by
        obtain ⟨m, hm, hrest⟩ := ih h
        exact ⟨m, List.mem_cons_of_mem l hm, hrest⟩
      have hcons {rest : Text} {b : Bool} (hr : rest <:+ l)
          (h : t ∈ (liveLine rest).1 :: (liveFrom b ls).1) :
          ∃ m ∈ l :: ls, ∃ rest, rest <:+ m ∧ t = (liveLine rest).1 := by
        rcases List.mem_cons.mp h with h | h
        · exact ⟨l, List.mem_cons_self, rest, hr, h⟩
        · exact htail h
      cases inBlock with
      | false => exact hcons (List.suffix_refl l) h
      | true =>
          rw [liveFrom] at h
          split at h
          · exact htail h
          · next head rest hc =>
              refine hcons ?_ h
              rw [eq_append_of_cut? hc]
              exact List.suffix_append _ rest

theorem live_of_mem_liveLines {source : Text} (h : t ∈ liveLines source) : Live t := by
  obtain ⟨l, _, rest, _, rfl⟩ := exists_of_mem_liveFrom h
  exact live_liveLine rest

/-- The uniform can be written and read again; `good` is what its words have from their line. -/
structure Uniform.Written (good : Text → Prop) (u : Uniform) : Prop where
  type : Token endsUniform u.type ∧ good u.type
  name : Token endsUniform u.name ∧ good u.name
  length : readNumeral (ofNat u.length) = .ok u.length

structure Attribute.Written (good : Text → Prop) (a : Attribute) : Prop where
  type : Token endsDeclaration a.type ∧ good a.type
  name : Token endsDeclaration a.name ∧ good a.name

def Declaration.Written (good : Text → Prop) : Declaration → Prop
  | .uniform u => u.Written good
  | .attribute a => a.Written good

structure Interface.Written (good : Text → Prop) (i : Interface) : Prop where
  uniforms : ∀ u ∈ i.uniforms, u.Written good
  attributes : ∀ a ∈ i.attributes, a.Written good
  uniformNames : (i.uniforms.map (·.name)).Nodup
  attributeNames : (i.attributes.map (·.name)).Nodup

theorem arrayLength_written {bracket : List Text} {n : Nat} (h : arrayLength bracket = .ok n) :
    readNumeral (ofNat n) = .ok n := by
  have hzero : readNumeral (ofNat 0) = .ok 0 := by decide
  unfold arrayLength at h
  split at h
  · cases h
    exact hzero
  · split at h
    · dsimp only at h
      split at h
      case isTrue hp => exact readNumeral_ofNat hp h
      case isFalse =>
          cases h
          exact hzero
    · cases h
      exact hzero

theorem mem_of_inputTokens? {ts : List Text} {type name : Text}
    (h : inputTokens? ts = some (type, name)) : type ∈ ts ∧ name ∈ ts := by
  rw [inputTokens?] at h
  split at h
  case h_2 => cases h
  case h_1 w t n rest hd =>
      cases h
      have hs : (w :: type :: name :: rest) <:+ ts := hd ▸ List.dropWhile_suffix _
      exact ⟨hs.subset (by simp), hs.subset (by simp)⟩

theorem map_eq_ok_some {α β : Type} {r : Except Fault (Option α)} {f : α → β} {y : β}
    (h : (do return (← r).map f : Except Fault (Option β)) = .ok (some y)) :
    ∃ x, r = .ok (some x) ∧ f x = y := by
  cases r with
  | error fault => cases h
  | ok x =>
      cases x with
      | none => cases h
      | some x =>
          cases h
          exact ⟨x, rfl, rfl⟩

theorem declarations_cons (l : Text) (ls : List Text) : declarations (l :: ls) =
    (declaration? l).bind fun d => (declarations ls).bind fun ds => .ok (d.toList ++ ds) := rfl

section Written

variable {good : Text → Prop} (hgood : ∀ {a b : Text}, good b → a <:+: b → good a)
include hgood

theorem good_token {separates : Char → Bool} {p : Text} (ht : good t)
    (hp : p ∈ tokens separates t) : Token separates p ∧ good p :=
  ⟨(token_of_mem_tokens hp).1, hgood ht (token_of_mem_tokens hp).2⟩

theorem uniform?_written {u : Uniform} (hl : good line) (h : uniform? line = .ok (some u)) :
    u.Written good := by
  have hrest : good (line.drop uniformWord.length) :=
    hgood hl (List.drop_suffix _ _).isInfix
  rw [uniform?] at h
  split at h
  case h_2 => cases h
  case h_1 type name bracket ht =>
      cases hn : arrayLength bracket with
      | error fault => rw [hn] at h; cases h
      | ok n =>
          rw [hn] at h
          cases h
          exact ⟨good_token hgood hrest (by simp [ht]), good_token hgood hrest (by simp [ht]),
            arrayLength_written hn⟩

theorem located?_written {a : Attribute} (hl : good line) (h : located? line = .ok (some a)) :
    a.Written good := by
  rw [located?] at h
  split at h
  case h_2 => cases h
  case h_1 equals closing _ _ =>
      dsimp only at h
      have hrest : good (line.drop (closing + 1)) :=
        hgood hl (List.drop_suffix _ _).isInfix
      split at h
      case isFalse => cases h
      case isTrue =>
          cases hi : inputTokens? (tokens endsDeclaration (line.drop (closing + 1))) with
          | none => rw [hi] at h; cases h
          | some p =>
              obtain ⟨type, name⟩ := p
              obtain ⟨ht, hn⟩ := mem_of_inputTokens? hi
              rw [hi] at h
              dsimp only at h
              cases hr : readNumeral (trim ((line.take closing).drop (equals + 1))) with
              | error fault => rw [hr] at h; cases h
              | ok n =>
                  rw [hr] at h
                  cases h
                  exact ⟨good_token hgood hrest ht, good_token hgood hrest hn⟩

theorem attribute?_written {a : Attribute} (hl : good line) (h : attribute? line = some a) :
    a.Written good := by
  have hrest : good (line.drop attributeWord.length) :=
    hgood hl (List.drop_suffix _ _).isInfix
  rw [attribute?] at h
  split at h
  case h_2 => cases h
  case h_1 type name rest ht =>
      cases h
      exact ⟨good_token hgood hrest (by simp [ht]), good_token hgood hrest (by simp [ht])⟩

theorem declaration?_written {d : Declaration} (hl : good line)
    (h : declaration? line = .ok (some d)) : d.Written good := by
  rw [declaration?] at h
  split at h
  · obtain ⟨u, hu, rfl⟩ := map_eq_ok_some h
    exact uniform?_written hgood hl hu
  · split at h
    · obtain ⟨a, ha, rfl⟩ := map_eq_ok_some h
      exact located?_written hgood hl ha
    · split at h
      · have ha : (attribute? line).map Declaration.attribute = some d := Except.ok.inj h
        obtain ⟨a, ha', rfl⟩ := Option.map_eq_some_iff.mp ha
        exact attribute?_written hgood hl ha'
      · cases h

theorem declarations_written {ls : List Text} {ds : List Declaration} (hl : ∀ l ∈ ls, good l)
    (h : declarations ls = .ok ds) : ∀ d ∈ ds, d.Written good := by
  induction ls generalizing ds with
  | nil =>
      cases h
      intro d hd
      cases hd
  | cons l ls ih =>
      rw [declarations_cons] at h
      cases hd : declaration? l with
      | error fault => rw [hd] at h; cases h
      | ok d =>
          cases hs : declarations ls with
          | error fault => rw [hd, hs] at h; cases h
          | ok rest =>
              rw [hd, hs] at h
              cases h
              intro e he
              rcases List.mem_append.mp he with he | he
              · rw [Option.mem_toList.mp he] at hd
                exact declaration?_written hgood (hl l List.mem_cons_self) hd
              · exact ih (fun m hm => hl m (List.mem_cons_of_mem l hm)) hs e he

end Written

theorem any_name_eq_false {α : Type} {name : α → Text} {xs : List α} {x : Text}
    (h : ¬ xs.any (fun y => name y == x) = true) : x ∉ xs.map name := by
  intro hx
  obtain ⟨y, hy, rfl⟩ := List.mem_map.mp hx
  exact h (List.any_eq_true.mpr ⟨y, hy, beq_self_eq_true _⟩)

theorem Interface.Written.add {good : Text → Prop} {i : Interface} (h : i.Written good)
    {d : Declaration} (hd : d.Written good) : (i.add d).Written good := by
  match d, hd with
  | .uniform u, hd =>
      rw [Interface.add]
      split
      · exact h
      · next hn =>
          refine ⟨fun v hv => ?_, h.attributes, ?_, h.attributeNames⟩
          · rcases List.mem_append.mp hv with hv | hv
            · exact h.uniforms v hv
            · exact List.mem_singleton.mp hv ▸ hd
          · rw [List.map_append, List.map_singleton, ← List.concat_eq_append]
            exact List.Nodup.concat (any_name_eq_false hn) h.uniformNames
  | .attribute a, hd =>
      rw [Interface.add]
      split
      · exact h
      · next hn =>
          refine ⟨h.uniforms, fun v hv => ?_, h.uniformNames, ?_⟩
          · rcases List.mem_append.mp hv with hv | hv
            · exact h.attributes v hv
            · exact List.mem_singleton.mp hv ▸ hd
          · rw [List.map_append, List.map_singleton, ← List.concat_eq_append]
            exact List.Nodup.concat (any_name_eq_false hn) h.attributeNames

theorem ofDeclarations_written {good : Text → Prop} {ds : List Declaration}
    (h : ∀ d ∈ ds, d.Written good) : (Interface.ofDeclarations ds).Written good := by
  have hfold : ∀ (i : Interface), i.Written good → (ds.foldl Interface.add i).Written good := by
    induction ds with
    | nil => exact fun i hi => hi
    | cons d ds ih =>
        intro i hi
        exact ih (fun e he => h e (List.mem_cons_of_mem d he)) _ (hi.add (h d List.mem_cons_self))
  exact hfold {} ⟨by simp, by simp, List.nodup_nil, List.nodup_nil⟩

theorem scan_eq_ok {source : Text} {i : Interface} (h : scan source = .ok i) :
    ∃ ds, declarations (liveLines source) = .ok ds ∧ i = Interface.ofDeclarations ds := by
  rw [scan] at h
  cases hd : declarations (liveLines source) with
  | error fault => rw [hd] at h; cases h
  | ok ds =>
      rw [hd] at h
      cases h
      exact ⟨ds, rfl, rfl⟩

theorem scan_good {good : Text → Prop} (hgood : ∀ {a b : Text}, good b → a <:+: b → good a)
    {source : Text} {i : Interface} (hl : ∀ l ∈ liveLines source, good l)
    (h : scan source = .ok i) : i.Written good := by
  obtain ⟨ds, hd, rfl⟩ := scan_eq_ok h
  exact ofDeclarations_written (declarations_written hgood hl hd)

def Interface.words (i : Interface) : List Text :=
  i.uniforms.flatMap (fun u => [u.type, u.name]) ++ i.attributes.flatMap fun a => [a.type, a.name]

theorem mem_words_of_uniform {i : Interface} {u : Uniform} (h : u ∈ i.uniforms) :
    u.type ∈ i.words ∧ u.name ∈ i.words :=
  ⟨List.mem_append_left _ (List.mem_flatMap.mpr ⟨u, h, by simp⟩),
    List.mem_append_left _ (List.mem_flatMap.mpr ⟨u, h, by simp⟩)⟩

theorem mem_words_of_attribute {i : Interface} {a : Attribute} (h : a ∈ i.attributes) :
    a.type ∈ i.words ∧ a.name ∈ i.words :=
  ⟨List.mem_append_right _ (List.mem_flatMap.mpr ⟨a, h, by simp⟩),
    List.mem_append_right _ (List.mem_flatMap.mpr ⟨a, h, by simp⟩)⟩

theorem Interface.Written.words {good : Text → Prop} {i : Interface} (h : i.Written good) :
    ∀ word ∈ i.words, good word := by
  intro word hw
  rcases List.mem_append.mp hw with hw | hw
  · obtain ⟨u, hu, hmem⟩ := List.mem_flatMap.mp hw
    simp only [List.mem_cons, List.not_mem_nil, or_false] at hmem
    rcases hmem with rfl | rfl
    · exact (h.uniforms u hu).type.2
    · exact (h.uniforms u hu).name.2
  · obtain ⟨a, ha, hmem⟩ := List.mem_flatMap.mp hw
    simp only [List.mem_cons, List.not_mem_nil, or_false] at hmem
    rcases hmem with rfl | rfl
    · exact (h.attributes a ha).type.2
    · exact (h.attributes a ha).name.2

theorem scan_written {source : Text} {i : Interface} (h : scan source = .ok i) : i.Written Live :=
  scan_good Live.of_infix (fun _ hl => live_of_mem_liveLines hl) h

section Names

def Declaration.name : Declaration → Text
  | .uniform u => u.name
  | .attribute a => a.name

def Declaration.type : Declaration → Text
  | .uniform u => u.type
  | .attribute a => a.type

theorem mem_declarations_of_mem {ls : List Text} {ds : List Declaration} {d : Declaration}
    (h : declarations ls = .ok ds) (hl : line ∈ ls) (hd : declaration? line = .ok (some d)) :
    d ∈ ds := by
  induction ls generalizing ds with
  | nil => cases hl
  | cons l ls ih =>
      rw [declarations_cons] at h
      cases he : declaration? l with
      | error fault => rw [he] at h; cases h
      | ok e =>
          cases hs : declarations ls with
          | error fault => rw [he, hs] at h; cases h
          | ok rest =>
              rw [he, hs] at h
              cases h
              rcases List.mem_cons.mp hl with rfl | hl
              · obtain rfl : e = some d := Except.ok.inj (he.symm.trans hd)
                exact List.mem_append_left rest (by simp)
              · exact List.mem_append_right e.toList (ih hs hl)

theorem mem_declarations_add {i : Interface} {e : Declaration} (he : e ∈ i.declarations)
    (d : Declaration) : e ∈ (i.add d).declarations := by
  rw [Interface.declarations, List.mem_append] at he ⊢
  match d with
  | .uniform u =>
      rw [Interface.add]
      split
      · exact he
      · exact he.imp_left fun h => by simp [List.map_append, h]
  | .attribute a =>
      rw [Interface.add]
      split
      · exact he
      · exact he.imp_right fun h => by simp [List.map_append, h]

theorem exists_mem_declarations_add (i : Interface) (d : Declaration) :
    ∃ e ∈ (i.add d).declarations, e.name = d.name := by
  match d with
  | .uniform u =>
      rw [Interface.add]
      split
      · next h =>
          obtain ⟨v, hv, hn⟩ := List.any_eq_true.mp h
          exact ⟨.uniform v, List.mem_append_left _ (List.mem_map_of_mem hv), beq_iff_eq.mp hn⟩
      · exact ⟨.uniform u, List.mem_append_left _ (List.mem_map_of_mem (by simp)), rfl⟩
  | .attribute a =>
      rw [Interface.add]
      split
      · next h =>
          obtain ⟨b, hb, hn⟩ := List.any_eq_true.mp h
          exact ⟨.attribute b, List.mem_append_right _ (List.mem_map_of_mem hb), beq_iff_eq.mp hn⟩
      · exact ⟨.attribute a, List.mem_append_right _ (List.mem_map_of_mem (by simp)), rfl⟩

theorem exists_mem_ofDeclarations {ds : List Declaration} {d : Declaration} (h : d ∈ ds) :
    ∃ e ∈ (Interface.ofDeclarations ds).declarations, e.name = d.name := by
  have hfold (ds : List Declaration) (i : Interface) {e : Declaration} (he : e ∈ i.declarations) :
      e ∈ (ds.foldl Interface.add i).declarations := by
    induction ds generalizing i with
    | nil => exact he
    | cons d ds ih => exact ih _ (mem_declarations_add he d)
  obtain ⟨before, after, rfl⟩ := List.append_of_mem h
  rw [Interface.ofDeclarations, List.foldl_append, List.foldl_cons]
  obtain ⟨e, he, hn⟩ := exists_mem_declarations_add (before.foldl Interface.add {}) d
  exact ⟨e, hfold after _ he, hn⟩

theorem exists_mem_of_scan {source : Text} {i : Interface} {d : Declaration}
    (h : scan source = .ok i) (hl : line ∈ liveLines source)
    (hd : declaration? line = .ok (some d)) : ∃ e ∈ i.declarations, e.name = d.name := by
  obtain ⟨ds, hds, rfl⟩ := scan_eq_ok h
  exact exists_mem_ofDeclarations (mem_declarations_of_mem hds hl hd)

theorem exists_line_of_mem_declarations {ls : List Text} {ds : List Declaration} {d : Declaration}
    (h : declarations ls = .ok ds) (hd : d ∈ ds) :
    ∃ line ∈ ls, declaration? line = .ok (some d) := by
  induction ls generalizing ds with
  | nil =>
      cases h
      cases hd
  | cons l ls ih =>
      rw [declarations_cons] at h
      cases he : declaration? l with
      | error fault => rw [he] at h; cases h
      | ok e =>
          cases hs : declarations ls with
          | error fault => rw [he, hs] at h; cases h
          | ok rest =>
              rw [he, hs] at h
              cases h
              rcases List.mem_append.mp hd with hd | hd
              · rw [Option.mem_toList.mp hd] at he
                exact ⟨l, List.mem_cons_self, he⟩
              · obtain ⟨line, hl, hline⟩ := ih hs hd
                exact ⟨line, List.mem_cons_of_mem l hl, hline⟩

theorem exists_declaration?_of_scan {source : Text} {i : Interface} (h : scan source = .ok i)
    (hl : line ∈ liveLines source) : ∃ d, declaration? line = .ok d := by
  obtain ⟨ds, hds, -⟩ := scan_eq_ok h
  generalize liveLines source = ls at hds hl
  induction ls generalizing ds with
  | nil => cases hl
  | cons l ls ih =>
      rw [declarations_cons] at hds
      cases hd : declaration? l with
      | error fault => rw [hd] at hds; cases hds
      | ok d =>
          cases hs : declarations ls with
          | error fault => rw [hd, hs] at hds; cases hds
          | ok rest =>
              rcases List.mem_cons.mp hl with rfl | hl
              · exact ⟨d, hd⟩
              · exact ih rest hs hl

theorem mem_attributes_add {i : Interface} {d : Declaration} {name : Text} :
    name ∈ (i.add d).attributes.map (·.name) ↔
      name ∈ i.attributes.map (·.name) ∨ ∃ a, d = .attribute a ∧ a.name = name := by
  match d with
  | .uniform u =>
      have hsame : (i.add (.uniform u)).attributes = i.attributes := by
        rw [Interface.add]
        split <;> rfl
      rw [hsame]
      simp
  | .attribute a =>
      rw [Interface.add]
      split
      · next h =>
          obtain ⟨b, hb, hn⟩ := List.any_eq_true.mp h
          refine ⟨.inl, ?_⟩
          rintro (h | ⟨a', ha, rfl⟩)
          · exact h
          · cases ha
            exact List.mem_map.mpr ⟨b, hb, beq_iff_eq.mp hn⟩
      · simp [List.map_append, eq_comm]

theorem mem_attributes_of_scan {source name : Text} {i : Interface} (h : scan source = .ok i) :
    name ∈ i.attributes.map (·.name) ↔
      ∃ line ∈ liveLines source, ∃ a, declaration? line = .ok (some (.attribute a)) ∧
        a.name = name := by
  obtain ⟨ds, hds, rfl⟩ := scan_eq_ok h
  have hfold (ds : List Declaration) (i : Interface) :
      name ∈ (ds.foldl Interface.add i).attributes.map (·.name) ↔
        name ∈ i.attributes.map (·.name) ∨ ∃ a, .attribute a ∈ ds ∧ a.name = name := by
    induction ds generalizing i with
    | nil => simp
    | cons d ds ih =>
        rw [List.foldl_cons, ih, mem_attributes_add, or_assoc]
        simp only [List.mem_cons, or_and_right, exists_or, eq_comm]
  rw [Interface.ofDeclarations, hfold]
  constructor
  · rintro (h | ⟨a, ha, hn⟩)
    · cases h
    · obtain ⟨line, hl, hd⟩ := exists_line_of_mem_declarations hds ha
      exact ⟨line, hl, a, hd, hn⟩
  · rintro ⟨line, hl, a, hd, hn⟩
    exact .inr ⟨a, mem_declarations_of_mem hds hl hd, hn⟩

end Names

end ShaderPipeline.Glsl
