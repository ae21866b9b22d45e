import ShaderPipeline.Legacy.Convert
import ShaderPipeline.Proofs.Glsl.Variables
import ShaderPipeline.Proofs.Glsl.Written

namespace ShaderPipeline.Legacy

open Text Glsl

variable {l t type name : Text}

/-- Nothing in the live line belongs to the modern dialect. -/
structure InDialect (l : Text) : Prop where
  version : after? versionDirective l = none
  layout : startsWithWord layoutWord l = false
  qualifier : (splitQualifier l).1 = none

def declares (l : Text) : Bool := startsWithWord attributeWord l || startsWithWord uniformWord l

/-- The interface of a converted shader: no integers, no locations, and an attribute for the
vertex index if it is used. -/
def legacyInterface (usesIndex : Bool) (i : Interface) : Interface where
  uniforms := i.uniforms.map fun u => { u with type := widen u.type }
  attributes := i.attributes.map (fun a => ⟨a.name, widen a.type, none⟩) ++
    if usesIndex && !i.attributes.any (·.name == "_vertex_id".toList) then
      [⟨"_vertex_id".toList, "float".toList, none⟩]
    else []

section Words

theorem newline_not_mem {separates : Char → Bool} (hs : separates '\n' = true)
    (h : Token separates t) : '\n' ∉ t := by
  intro hn
  rw [h.2 _ hn] at hs
  cases hs

theorem widen_cases (type : Text) : widen type = type ∨ widen type = "float".toList := by
  rw [widen]
  split
  · exact .inr rfl
  · exact .inl rfl

theorem token_widen {separates : Char → Bool} (hf : Token separates "float".toList)
    (h : Token separates type) : Token separates (widen type) := by
  rcases widen_cases type with he | he <;> rw [he] <;> assumption

theorem live_widen (h : Live type) : Live (widen type) := by
  rcases widen_cases type with he | he
  · rw [he]; exact h
  · rw [he]; exact live_of_no_slash (by decide)

end Words

section Lines

theorem attributeLine_eq (type name : Text) : attributeLine type name =
    attributeWord ++ ' ' :: (type ++ ' ' :: (name ++ ';' :: [])) := by
  simp [attributeLine]

def arraySuffix (n : Nat) : Text := if 0 < n then '[' :: ofNat n ++ [']'] else []

theorem uniformLine_eq (u : Uniform) : uniformLine u =
    uniformWord ++ ' ' :: (widen u.type ++ ' ' :: (u.name ++ arraySuffix u.length ++ ';' :: [])) := by
  simp [uniformLine, arraySuffix]

/-- A line of the header: it is live as it stands, and declares something. -/
structure HeaderLine (l : Text) : Prop where
  dialect : InDialect l
  declares : declares l = true
  live : Live l
  whole : liveHead l = l
  newline : '\n' ∉ l

theorem HeaderLine.not_allBlank (h : HeaderLine l) : allBlank l = false := by
  rw [← Bool.not_eq_true]
  intro hblank
  have hnil : l = [] := h.whole.symm.trans (liveHead_of_blank hblank)
  subst hnil
  exact absurd h.declares (by decide)

theorem headerLine_of_word {word rest : Text} (hw : word = attributeWord ∨ word = uniformWord)
    (hl : Live rest) (hn : '\n' ∉ rest) : HeaderLine (word ++ ' ' :: (rest ++ ';' :: [])) := by
  have hword : Live word ∧ '\n' ∉ word ∧ leadingWord? word = some (word, []) ∧
      Storage.ofWord? word = none ∧ word ∉ interpolationWords := by
    rcases hw with rfl | rfl <;>
      exact ⟨live_of_no_slash (by decide), by decide, by decide, by decide, by decide⟩
  obtain ⟨hlw, hnw, hlead, hstorage, hinter⟩ := hword
  have hends : endsWord (' ' :: (rest ++ ';' :: [])) = true := endsWord_cons (by decide) _
  have hlive : Live (word ++ ' ' :: (rest ++ ';' :: [])) :=
    hlw.append_cons (hl.append_cons (live_of_no_slash (by decide)) (by decide)) (by decide)
  refine ⟨⟨?_, ?_, ?_⟩, ?_, hlive, ?_, ?_⟩
  · rcases hw with rfl | rfl <;> rfl
  · rcases hw with rfl | rfl <;> rfl
  · exact splitQualifier_eq_none (qualified?_of_word (leadingWord?_append hlead hends) hstorage hinter)
  · have hstart : startsWithWord word (word ++ ' ' :: (rest ++ ';' :: [])) = true :=
      startsWithWord_iff.mpr ⟨_, rfl, hends⟩
    rw [declares, Bool.or_eq_true]
    rcases hw with rfl | rfl
    · exact .inl hstart
    · exact .inr hstart
  · rw [liveHead_of_no_mark hlive.line]
    have hstart : trimStart (word ++ ' ' :: (rest ++ ';' :: [])) =
        word ++ ' ' :: (rest ++ ';' :: []) := by
      rcases hw with rfl | rfl <;> exact trimStart_cons (by decide)
    have hassoc : word ++ ' ' :: (rest ++ ';' :: []) = (word ++ ' ' :: rest) ++ [';'] := by simp
    rw [trim, hstart, hassoc, trimEnd_append (by decide)]
    rfl
  · simp [hnw, hn]

theorem attributeLine_headerLine (ht : Token endsDeclaration type ∧ Live type)
    (hn : Token endsDeclaration name ∧ Live name) : HeaderLine (attributeLine type name) := by
  have hrest : Live (type ++ ' ' :: name) := ht.2.append_cons hn.2 (by decide)
  have hline : attributeLine type name =
      attributeWord ++ ' ' :: ((type ++ ' ' :: name) ++ ';' :: []) := by
    simp [attributeLine]
  rw [hline]
  apply headerLine_of_word (.inl rfl) hrest
  simp [newline_not_mem (by decide) ht.1, newline_not_mem (by decide) hn.1]

theorem attribute?_attributeLine (ht : Token endsDeclaration type) (hn : Token endsDeclaration name) :
    attribute? (attributeLine type name) = some ⟨name, type, none⟩ := by
  have htokens : tokens endsDeclaration ((attributeLine type name).drop attributeWord.length) =
      [type, name] := by
    rw [attributeLine_eq, List.drop_left, tokens_cons (by decide), tokens_append ht (by decide),
      tokens_append hn (by decide)]
    rfl
  rw [attribute?, htokens]

theorem declaration?_attributeLine (ht : Token endsDeclaration type)
    (hn : Token endsDeclaration name) :
    declaration? (attributeLine type name) = .ok (some (.attribute ⟨name, type, none⟩)) := by
  have hstart : startsWithWord attributeWord (attributeLine type name) = true := by
    rw [attributeLine_eq]
    exact startsWithWord_iff.mpr ⟨_, rfl, endsWord_cons (by decide) _⟩
  have huniform : startsWithWord uniformWord (attributeLine type name) = false := rfl
  have hlayout : startsWithWord layoutWord (attributeLine type name) = false := rfl
  rw [declaration?, if_neg (by simp [huniform]), if_neg (by simp [hlayout]), if_pos hstart,
    attribute?_attributeLine ht hn]
  rfl

theorem mem_arraySuffix {c : Char} {n : Nat} (h : c ∈ arraySuffix n) :
    c = '[' ∨ c.isDigit = true ∨ c = ']' := by
  rw [arraySuffix] at h
  split at h
  case isFalse => cases h
  case isTrue =>
      rw [List.cons_append, List.mem_cons, List.mem_append, List.mem_singleton] at h
      exact h.imp_right (Or.imp_left isDigit_of_mem_ofNat)

theorem live_declarator {name : Text} (h : Live name) (hn : '\n' ∉ name) (n : Nat) :
    Live (name ++ arraySuffix n) ∧ '\n' ∉ name ++ arraySuffix n := by
  have hdigit {c : Char} (hc : c.isDigit = false) : c ∉ ofNat n := by
    intro h
    rw [isDigit_of_mem_ofNat h] at hc
    cases hc
  rw [arraySuffix]
  split
  · have hslash : '/' ∉ ofNat n := hdigit (by decide)
    have hnewline : '\n' ∉ ofNat n := hdigit (by decide)
    exact ⟨h.append_cons (live_of_no_slash (by simp [hslash])) (by decide), by simp [hn, hnewline]⟩
  · rw [List.append_nil]
    exact ⟨h, hn⟩

theorem tokens_declarator {name : Text} (hn : Token endsUniform name) (n : Nat) :
    tokens endsUniform (name ++ arraySuffix n ++ ';' :: []) =
      name :: if 0 < n then [ofNat n ++ [']']] else [] := by
  rw [arraySuffix]
  split
  · have heq : name ++ ('[' :: ofNat n ++ [']']) ++ ';' :: [] =
        name ++ '[' :: ((ofNat n ++ [']']) ++ ';' :: []) := by simp
    have hclosed := token_closed (isPlainNumeral_ofNat n)
    rw [heq, tokens_append hn (by decide), tokens_append hclosed (by decide)]
    rfl
  · rw [List.append_nil, tokens_append hn (by decide)]
    rfl

theorem uniform?_uniformLine {u : Uniform} (h : u.Written Live) :
    uniform? (uniformLine u) = .ok (some { u with type := widen u.type }) := by
  have htype : Token endsUniform (widen u.type) := token_widen (by decide) h.type.1
  have htokens : tokens endsUniform ((uniformLine u).drop uniformWord.length) =
      widen u.type :: u.name :: if 0 < u.length then [ofNat u.length ++ [']']] else [] := by
    rw [uniformLine_eq, List.drop_left, tokens_cons (by decide), tokens_append htype (by decide),
      tokens_declarator h.name.1]
  rw [uniform?, htokens]
  dsimp only
  by_cases hn : 0 < u.length
  · rw [if_pos hn, arrayLength_closed (isPlainNumeral_ofNat _), h.length]
    rfl
  · have hzero : u.length = 0 := by omega
    rw [if_neg hn]
    change Except.ok (some (⟨u.name, widen u.type, 0⟩ : Uniform)) = _
    rw [hzero]

theorem declaration?_uniformLine {u : Uniform} (h : u.Written Live) :
    declaration? (uniformLine u) = .ok (some (.uniform { u with type := widen u.type })) := by
  have hstart : startsWithWord uniformWord (uniformLine u) = true := by
    rw [uniformLine_eq]
    exact startsWithWord_iff.mpr ⟨_, rfl, endsWord_cons (by decide) _⟩
  rw [declaration?, if_pos hstart, uniform?_uniformLine h]
  rfl

theorem uniformLine_headerLine {u : Uniform} (h : u.Written Live) : HeaderLine (uniformLine u) := by
  have htype : Token endsUniform (widen u.type) := token_widen (by decide) h.type.1
  have hname := live_declarator h.name.2 (newline_not_mem (by decide) h.name.1) u.length
  have hline : uniformLine u = uniformWord ++ ' ' ::
      ((widen u.type ++ ' ' :: (u.name ++ arraySuffix u.length)) ++ ';' :: []) := by
    rw [uniformLine_eq]
    simp
  rw [hline]
  apply headerLine_of_word (.inr rfl) ((live_widen h.type.2).append_cons hname.1 (by decide))
  rw [List.mem_append, List.mem_cons]
  rintro (hc | hc | hc)
  · exact newline_not_mem (by decide) htype hc
  · cases hc
  · exact hname.2 hc

end Lines

section Header

variable {i : Interface}

theorem vertexIndex_headerLine : HeaderLine (attributeLine "float".toList "_vertex_id".toList) :=
  attributeLine_headerLine ⟨by decide, live_of_no_slash (by decide)⟩
    ⟨by decide, live_of_no_slash (by decide)⟩

theorem header_headerLine (h : i.Written Live) (usesIndex : Bool) :
    ∀ l ∈ header {} usesIndex i, HeaderLine l := by
  intro l hl
  rw [header, List.mem_append, List.mem_append] at hl
  rcases hl with (hl | hl) | hl
  · obtain ⟨a, ha, rfl⟩ := List.mem_map.mp hl
    have hw := h.attributes a ha
    exact attributeLine_headerLine ⟨token_widen (by decide) hw.type.1, live_widen hw.type.2⟩ hw.name
  · split at hl
    · rw [List.mem_singleton.mp hl]
      exact vertexIndex_headerLine
    · cases hl
  · obtain ⟨u, hu, rfl⟩ := List.mem_map.mp hl
    exact uniformLine_headerLine (h.uniforms u hu)

theorem declarations_append {ls ms : List Text} {ds es : List Declaration}
    (h : declarations ls = .ok ds) (h' : declarations ms = .ok es) :
    declarations (ls ++ ms) = .ok (ds ++ es) := by
  induction ls generalizing ds with
  | nil =>
      cases h
      exact h'
  | cons l ls ih =>
      rw [declarations_cons] at h
      cases hd : declaration? l with
      | error fault => rw [hd] at h; cases h
      | ok d =>
          cases hs : declarations ls with
          | error fault => rw [hd, hs] at h; cases h
          | ok rest =>
              rw [hd, hs] at h
              cases h
              rw [List.cons_append, declarations_cons, hd, ih hs, List.append_assoc]
              rfl

theorem declarations_map {α : Type} {xs : List α} (f : α → Text) (d : α → Declaration)
    (h : ∀ x ∈ xs, declaration? (f x) = .ok (some (d x))) :
    declarations (xs.map f) = .ok (xs.map d) := by
  induction xs with
  | nil => rfl
  | cons x xs ih =>
      rw [List.map_cons, declarations_cons, h x List.mem_cons_self,
        ih fun y hy => h y (List.mem_cons_of_mem x hy)]
      rfl

def headerDeclarations (usesIndex : Bool) (i : Interface) : List Declaration :=
  i.attributes.map (fun a => .attribute ⟨a.name, widen a.type, none⟩)
    ++ (if usesIndex then [.attribute ⟨"_vertex_id".toList, "float".toList, none⟩] else [])
    ++ i.uniforms.map fun u => .uniform { u with type := widen u.type }

theorem declarations_header (h : i.Written Live) (usesIndex : Bool) :
    declarations (header {} usesIndex i) = .ok (headerDeclarations usesIndex i) := by
  refine declarations_append (declarations_append ?_ ?_) ?_
  · exact declarations_map _ _ fun a ha => declaration?_attributeLine
      (token_widen (by decide) (h.attributes a ha).type.1) (h.attributes a ha).name.1
  · cases usesIndex
    · rfl
    · have hd : declaration? (attributeLine "float".toList "_vertex_id".toList) =
          .ok (some (.attribute ⟨"_vertex_id".toList, "float".toList, none⟩)) :=
        declaration?_attributeLine (by decide) (by decide)
      change declarations [attributeLine "float".toList "_vertex_id".toList] = _
      rw [declarations_cons, hd]
      rfl
  · exact declarations_map _ _ fun u hu => declaration?_uniformLine (h.uniforms u hu)

theorem foldl_attributes {as : List Attribute} {i : Interface}
    (h : (i.attributes.map (·.name) ++ as.map (·.name)).Nodup) :
    (as.map Declaration.attribute).foldl Interface.add i =
      { i with attributes := i.attributes ++ as } := by
  induction as generalizing i with
  | nil => simp
  | cons a as ih =>
      have hfresh : i.attributes.any (·.name == a.name) = false := by
        rw [List.any_eq_false]
        intro b hb hn
        have hn : b.name = a.name := by simpa using hn
        rw [List.map_cons, List.nodup_append] at h
        exact h.2.2 b.name (List.mem_map_of_mem hb) a.name List.mem_cons_self hn
      rw [List.map_cons, List.foldl_cons, Interface.add, hfresh, if_neg (by decide), ih]
      · simp
      · simpa using h

theorem foldl_uniforms {us : List Uniform} {i : Interface}
    (h : (i.uniforms.map (·.name) ++ us.map (·.name)).Nodup) :
    (us.map Declaration.uniform).foldl Interface.add i =
      { i with uniforms := i.uniforms ++ us } := by
  induction us generalizing i with
  | nil => simp
  | cons u us ih =>
      have hfresh : i.uniforms.any (·.name == u.name) = false := by
        rw [List.any_eq_false]
        intro b hb hn
        have hn : b.name = u.name := by simpa using hn
        rw [List.map_cons, List.nodup_append] at h
        exact h.2.2 b.name (List.mem_map_of_mem hb) u.name List.mem_cons_self hn
      rw [List.map_cons, List.foldl_cons, Interface.add, hfresh, if_neg (by decide), ih]
      · simp
      · simpa using h

theorem ofDeclarations_header (h : i.Written Live) (usesIndex : Bool) :
    Interface.ofDeclarations (headerDeclarations usesIndex i) = legacyInterface usesIndex i := by
  let as : List Attribute := i.attributes.map fun a => ⟨a.name, widen a.type, none⟩
  let us : List Uniform := i.uniforms.map fun u => { u with type := widen u.type }
  have hnames : as.map (·.name) = i.attributes.map (·.name) := List.map_map
  have hattributes : (as.map Declaration.attribute).foldl Interface.add {} = { attributes := as } := by
    apply foldl_attributes
    rw [hnames]
    exact h.attributeNames
  have huniforms (j : Interface) (hj : j.uniforms = []) :
      (us.map Declaration.uniform).foldl Interface.add j = { j with uniforms := us } := by
    have hunames : us.map (·.name) = i.uniforms.map (·.name) := List.map_map
    rw [foldl_uniforms, hj]
    · rfl
    · rw [hj, hunames]
      exact h.uniformNames
  have hany (n : Text) : as.any (·.name == n) = i.attributes.any (·.name == n) := List.any_map
  have heq : headerDeclarations usesIndex i = as.map .attribute
      ++ (if usesIndex then [.attribute ⟨"_vertex_id".toList, "float".toList, none⟩] else [])
      ++ us.map .uniform := by
    rw [headerDeclarations, List.map_map, List.map_map]
    rfl
  rw [Interface.ofDeclarations, heq, List.foldl_append, List.foldl_append, hattributes,
    legacyInterface, ← hany]
  cases usesIndex with
  | false =>
      rw [huniforms _ rfl]
      simp [as, us]
  | true =>
      rw [if_pos rfl, List.foldl_cons, List.foldl_nil, Interface.add, Bool.true_and]
      split
      case isTrue hs => rw [huniforms _ rfl, hs]; simp [as, us]
      case isFalse hs =>
          rw [huniforms _ rfl, Bool.eq_false_iff.mpr hs]
          simp [as, us]

end Header

end ShaderPipeline.Legacy
