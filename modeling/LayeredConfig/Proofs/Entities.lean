import LayeredConfig.Proofs.References

/-! Contents of entities. What a document type declaration gives as the text of an entity, or as
the place where it is stored, makes no difference to the settings that the document describes, as
far as its names can be read. A reference to an entity is as good as the characters that write it
in the text of a setting or of an item, and as good as nothing anywhere else. -/

namespace LayeredConfig.Xml

open Reading (Ensures Both)

namespace Reader

/-! ### Documents that vary in their entities -/

/-- Whether the reader of a document that begins with some characters can come to a place after
them. -/
def Reaches (front : List Char) (place : Reader → Bool) : Prop :=
  ∃ x, (match (start .start).run (readEntity Position.depthLimit) front .keep x with
    | .ok (r, _) => place r
    | .error _ => false) = true

/-- Whether the second of two documents is the first one with other parts of its internal subset,
such as declarations of the same entities with other texts or places, and with some references to
entities spelled out in elements or left out between them. -/
inductive Varies : List Char → List Char → Prop
  | nil : Varies [] []
  | common {first second : List Char} (cs : List Char) :
    Varies first second → Varies (first ++ cs) (second ++ cs)
  | subset {first second part other : List Char} :
    Varies first second → Reaches first isInSubset → StandsInSubset part → StandsInSubset other →
      Varies (first ++ part) (second ++ other)
  | spelled {first second : List Char} (name : List Char) :
    Varies first second → Reaches first isInElement → isColonName name = true →
      reservedCharacter? name = none →
        Varies (first ++ ('&' :: name ++ [';']))
          (second ++ (['&', 'a', 'm', 'p', ';'] ++ (name ++ [';'])))
  | dropped {first second : List Char} (name : List Char) :
    Varies first second → Reaches first isBetweenElements → isColonName name = true →
      reservedCharacter? name = none → Varies (first ++ ('&' :: name ++ [';'])) second

/-- An entity may be given another definition. -/
theorem Varies.redefined {first second : List Char} (blanks name definition other : List Char)
    (h : Varies first second) (hreaches : Reaches first isInSubset)
    (hblanks : ∀ c ∈ blanks, isSpace c = true) (hname : isColonName name = true)
    (hdefinition : IsDefinition definition) (hother : IsDefinition other) :
    Varies (first ++ entityDeclaration blanks name definition)
      (second ++ entityDeclaration blanks name other) :=
  h.subset hreaches (standsInSubset_entityDeclaration hblanks hname hdefinition)
    (standsInSubset_entityDeclaration hblanks hname hother)

/-! ### Two readings -/

section
variable {r s : Reader}

theorem Alike.isInSubset (h : Alike r s) (hr : r.isInSubset = true) :
    s.isInSubset = true ∧ Bare r s := by
  obtain ⟨start, reversed, hdoctype⟩ := isInSubset_iff.1 hr
  cases h with
  | content level hmode => rw [hmode] at hdoctype; cases hdoctype
  | reference level hmode => rw [hmode] at hdoctype; cases hdoctype
  | ended level hmode => rw [hmode] at hdoctype; cases hdoctype
  | markup bare hmode hmode' modes =>
    rw [hmode] at hdoctype
    rw [hdoctype] at modes
    cases modes
    exact ⟨isInSubset_iff.2 ⟨_, _, hmode'⟩, bare⟩

theorem Alike.isInElement (h : Alike r s) (hr : r.isInElement = true) : s.isInElement = true := by
  obtain ⟨⟨brackets, hcontent⟩, hempty⟩ := isInElement_iff.1 hr
  rw [h.level.isEmpty_eq] at hempty
  cases h with
  | content level hmode hmode' => exact isInElement_iff.2 ⟨⟨_, hmode'⟩, hempty⟩
  | reference level hmode hmode' => rw [hmode] at hcontent; cases hcontent
  | ended level hmode hmode' => rw [hmode] at hcontent; cases hcontent
  | markup bare hmode hmode' modes =>
    rw [hmode] at hcontent
    rw [hcontent] at modes
    cases modes

/-- Between elements is where text does not count. -/
theorem isBetweenElements_iff : r.isBetweenElements = true ↔ r.isInElement = true ∧
    ∀ g rest, r.gists = g :: rest → g.countsText rest.length = false := by
  unfold isBetweenElements
  rw [Bool.and_eq_true]
  refine and_congr_right fun hr => ?_
  have hempty := (isInElement_iff.1 hr).2
  match hr : r.elements with
  | [] => simp [hr] at hempty
  | [e] => simp [gists, hr, Gist.countsText]
  | [e, _] => simp [gists, hr, Gist.countsText]
  | [e, _, _] => simp [gists, hr, Gist.countsText, Gist.isList, gistOf]
  | _ :: _ :: _ :: _ :: _ => simp [gists, hr, Gist.countsText]

theorem Alike.isBetweenElements (h : Alike r s) (hr : r.isBetweenElements = true) :
    s.isBetweenElements = true := by
  obtain ⟨hinside, hcounts⟩ := isBetweenElements_iff.1 hr
  refine isBetweenElements_iff.2 ⟨h.isInElement hinside, fun g' rest' hs => ?_⟩
  have hcores := h.level.cores_eq
  rw [hs] at hcores
  cases hgists : r.gists with
  | nil => rw [hgists] at hcores; cases hcores
  | cons g rest =>
    rw [hgists] at hcores
    injection hcores with hcore hrest
    have hlength : rest.length = rest'.length := by
      rw [← Gist.length_cores, hrest, Gist.length_cores]
    have hname : g.name = g'.name := by
      rw [← Gist.name_core rest.length g, hcore, Gist.name_core]
    rw [← hcounts g rest hgists, Gist.countsText, Gist.countsText, Gist.isList, Gist.isList,
      hlength, hname]

/-- Readers in an internal subset that read different parts of it. -/
theorem Alike.both_run_subset (h : Alike r s) (hr : r.isInSubset = true)
    (readEntity : EntityReader) {part other : List Char} (hpart : StandsInSubset part)
    (hother : StandsInSubset other) :
    Both (r.run readEntity part) (s.run readEntity other) Alike := by
  obtain ⟨hs, hbare⟩ := h.isInSubset hr
  obtain ⟨start, reversed, hmode⟩ := isInSubset_iff.1 hr
  obtain ⟨start', reversed', hmode'⟩ := isInSubset_iff.1 hs
  refine .of_ensures (ensures_run_doctype hmode hpart) (ensures_run_doctype hmode' hother) ?_
  rintro _ _ ⟨position, hposition, rfl⟩ ⟨position', hposition', rfl⟩
  have hmoved := hbare.move position position' (hposition.trans hbare.outer_eq)
    (hposition'.trans hbare.outer_eq')
  exact .markup ⟨hmoved.turn _ _, hbare.pending_eq, hbare.pending_eq'⟩ rfl rfl (.doctype ..)

/-- Readers to which texts were added that differ only where they do not count. -/
theorem Level.gains (h : Level r s) {text text' : List Char} {r' s' : Reader}
    (hr : Gains r text r') (hs : Gains s text' s')
    (htext : ∀ g rest, r.gists = g :: rest → g.countsText rest.length = true → text = text') :
    Alike r' s' := by
  obtain ⟨brackets, hmode⟩ := hr.mode
  obtain ⟨brackets', hmode'⟩ := hs.mode
  refine .content ⟨?_, ?_, ?_, ?_, ?_⟩ hmode hmode'
  · rw [hr.gists_eq, hs.gists_eq]
    exact Gist.cores_addInside h.cores_eq htext rfl
  · rw [hr.root_eq, hs.root_eq, h.root_eq]
  · rw [hr.hasDoctype_eq, hs.hasDoctype_eq, h.hasDoctype_eq]
  · rw [hr.outer_eq, h.outer_eq]
  · rw [hs.outer_eq, h.outer_eq']

end

theorem alike_start {position other : Position} (hr : position.outer = none)
    (hs : other.outer = none) : Alike (start position) (start other) :=
  .content ⟨rfl, rfl, rfl, hr, hs⟩ rfl rfl

/-- Whatever is known of a document, the same place is reached. -/
theorem Reaches.ensures {front : List Char} {place : Reader → Bool} (h : Reaches front place)
    (hplace : ∀ {r s : Reader}, Alike r s → place r = true → place s = true)
    {position : Position} (hposition : position.outer = none) :
    Ensures ((start position).run (readEntity Position.depthLimit) front) (place · = true) := by
  obtain ⟨x, hx⟩ := h
  intro x' s y' hs
  split at hx
  · next r y hr =>
    exact hplace (both_run _ (alike_start rfl hposition) front _ _ _ _ _ _ hr hs) hx
  · cases hx

/-- Documents that vary in their entities are read alike. -/
theorem both_varies {first second : List Char} (h : Varies first second) {position other : Position}
    (hr : position.outer = none) (hs : other.outer = none) :
    Both ((start position).run (readEntity Position.depthLimit) first)
      ((start other).run (readEntity Position.depthLimit) second) Alike := by
  induction h with
  | nil => exact .pure (alike_start hr hs)
  | common cs _ ih =>
    rw [run_append, run_append]
    exact ih.bind fun _ _ halike => both_run _ halike cs
  | subset _ hreaches hpart hother ih =>
    rw [run_append, run_append]
    have hplace := hreaches.ensures (fun halike h => (halike.isInSubset h).1) hr
    refine (Both.and_left hplace ih).bind fun r s ⟨hsubset, halike⟩ => ?_
    exact halike.both_run_subset hsubset _ hpart hother
  | spelled name _ hreaches hname hreserved ih =>
    rw [run_append, run_append]
    have hplace := hreaches.ensures (fun halike h => halike.isInElement h) hr
    refine (Both.and_left hplace ih).bind fun r s ⟨hinside, halike⟩ => ?_
    refine .of_ensures (ensures_run_reference hname hreserved hinside)
      (ensures_run_spelled hname (halike.isInElement hinside)) fun _ _ hgains hgains' => ?_
    exact halike.level.gains hgains hgains' fun _ _ _ _ => rfl
  | @dropped _ second name _ hreaches hname hreserved ih =>
    rw [← List.append_nil second, run_append, run_append]
    have hplace := hreaches.ensures (fun halike h => halike.isBetweenElements h) hr
    refine (Both.and_left hplace ih).bind fun r s ⟨hbetween, halike⟩ => ?_
    obtain ⟨hinside, hcounts⟩ := isBetweenElements_iff.1 hbetween
    refine .of_ensures (ensures_run_reference hname hreserved hinside)
      (ensures_run_characters (by simp) (halike.isInElement hinside)) fun _ _ hgains hgains' => ?_
    exact halike.level.gains hgains hgains' fun g rest hgists h => by
      simp [hcounts g rest hgists] at h

end Reader

/-! ### Documents from their octets -/

namespace Document

/-- What octets write behind the declaration of a document, with its line ends joined. -/
def body? (octets : List UInt8) : Option (List Char) :=
  (decodeDocument octets).bind fun decoded =>
    (Declaration.split (joinLineEnds decoded.characters)).map (·.rest)

theorem outer_afterAll (position : Position) (cs : List Char) :
    (position.afterAll cs).outer = position.outer := by
  unfold Position.afterAll
  induction cs generalizing position with
  | nil => rfl
  | cons c cs ih => exact (ih _).trans rfl

/-- The guarded tree of a document is what its body is read as, without the remarks. -/
theorem exists_readRest_of_readGuarded {octets : List UInt8} {root : Node} {body : List Char}
    (hbody : body? octets = some body) (h : readGuarded octets = .ok root) :
    ∃ position : Position, position.outer = none ∧ ∃ isComplete x node y,
      readRest position body isComplete .keep x = .ok (node, y) ∧ root = node.withoutRemarks := by
  unfold readGuarded ofOctets at h
  unfold body? at hbody
  cases hdecoded : decodeDocument octets with
  | none => rw [hdecoded] at hbody; cases hbody
  | some decoded =>
    rw [hdecoded] at h hbody
    dsimp only [Option.bind_some] at h hbody
    unfold ofCharacters at h
    cases hsplit : Declaration.split (joinLineEnds decoded.characters) with
    | none => rw [hsplit] at hbody; cases hbody
    | some parts =>
      rw [hsplit] at hbody
      cases hbody
      simp only [hsplit] at h
      split at h
      · cases h
      · next node y hread =>
        split at h
        · cases h
        · cases h
          exact ⟨_, outer_afterAll .start _, decoded.isComplete, _, node, y, hread, rfl⟩

theorem ensures_finishRest (r : Reader) (isComplete : Bool) :
    Ensures (do
      if !isComplete then r.refuseOctet
      r.finish) (r.root = some ·) := by
  dsimp only
  split
  · exact .after fun _ => r.ensures_finish
  · exact r.ensures_finish

/-- Documents that vary in their entities have roots with the same gist, as far as it counts. -/
theorem gist?_eq_of_varies {octets other : List UInt8} {first second : List Char}
    {root root' : Node} (hbody : body? octets = some first) (hbody' : body? other = some second)
    (h : Reader.Varies first second) (hroot : readGuarded octets = .ok root)
    (hroot' : readGuarded other = .ok root') :
    root.gist?.map Gist.ofRoot = root'.gist?.map Gist.ofRoot := by
  obtain ⟨position, houter, isComplete, x, node, y, hread, rfl⟩ :=
    exists_readRest_of_readGuarded hbody hroot
  obtain ⟨position', houter', isComplete', x', node', y', hread', rfl⟩ :=
    exists_readRest_of_readGuarded hbody' hroot'
  rw [(Node.withoutRemarks_eq node).2, (Node.withoutRemarks_eq node').2]
  have hboth : Both (readRest position first isComplete) (readRest position' second isComplete')
      fun node node' => node.gist?.map Gist.ofRoot = node'.gist?.map Gist.ofRoot := by
    unfold readRest
    refine (Reader.both_varies h houter houter').bind fun r s halike => ?_
    refine .of_ensures (ensures_finishRest r isComplete) (ensures_finishRest s isComplete')
      fun _ _ => halike.roots_eq
  exact hboth _ _ _ _ _ _ hread hread'

end Document

end LayeredConfig.Xml

namespace LayeredConfig.Settings

open Xml Xml.Reader

/-- Documents that vary in their entities are loaded with the same result, but for the identity, and
with the same events, unless other names cannot be read in the one than in the other and such a name
ends one of the loads. -/
theorem ofOctets_of_varies {octets other : List UInt8} {first second : List Char}
    (hbody : Document.body? octets = some first) (hbody' : Document.body? other = some second)
    (h : Varies first second) (hread : (readGuarded octets).isOk = true)
    (hread' : (readGuarded other).isOk = true) (instanceId otherId name otherName : String) :
    ofOctets otherId otherName other =
        (·.withIdentity otherId) <$> ofOctets instanceId name octets ∨
      (readGuarded octets).map Entry.names? ≠ (readGuarded other).map Entry.names? ∧
        ∃ unreadable,
          (ofOctets instanceId name octets).result = .error (.invalidName unreadable) ∨
            (ofOctets otherId otherName other).result = .error (.invalidName unreadable) := by
  cases hroot : readGuarded octets with
  | error fault => rw [hroot] at hread; cases hread
  | ok root =>
    cases hroot' : readGuarded other with
    | error fault => rw [hroot'] at hread'; cases hread'
    | ok root' =>
      have hgist := Document.gist?_eq_of_varies hbody hbody' h hroot hroot'
      simp only [ofOctets, hroot, hroot', Except.map, ne_eq, Except.ok.injEq]
      by_cases hsame : ofTree instanceId root = ofTree instanceId root'
      · left
        rw [hsame]
        exact ofTree_withIdentity instanceId otherId root'
      · refine .inr ⟨fun hnames => hsame (ofTree_eq_of_names hgist hnames), ?_⟩
        by_contra hreadable
        push Not at hreadable
        exact hsame (ofTree_eq_of_gist? hgist (fun name => (hreadable name).1)
          ((isReadable_ofTree_iff otherId).2 fun name => (hreadable name).2))

/-- An entity that is a port by its text in one document and stored elsewhere in the other, where a
reference to it is left out of the root and one is spelled out in the host. -/
theorem ofOctets_of_varies_host :
    let octets := ("<!DOCTYPE properties [<!ENTITY n '<port/>'>]><properties>&n;<server>" ++
      "<host>&n;</host></server></properties>").toUTF8.toList
    let other := ("<!DOCTYPE properties [<!ENTITY n SYSTEM 'u'>]><properties><server>" ++
      "<host>&amp;n;</host></server></properties>").toUTF8.toList
    (∃ first second, Document.body? octets = some first ∧ Document.body? other = some second ∧
      Varies first second) ∧
      (readGuarded octets).isOk = true ∧ (readGuarded other).isOk = true ∧
        (ofOctets "v" "a.xml" octets).result = .ok { defaults "v" with host := some "&n;" } ∧
          ofOctets "w" "b.xml" other = (·.withIdentity "w") <$> ofOctets "v" "a.xml" octets := by
  intro octets other
  have hread : (readGuarded octets).isOk = true := by decide +kernel
  have hread' : (readGuarded other).isOk = true := by decide +kernel
  have hf : (ofOctets "v" "a.xml" octets).result =
      .ok { defaults "v" with host := some "&n;" } := by decide +kernel
  have hs : (ofOctets "w" "b.xml" other).result =
      .ok { defaults "w" with host := some "&n;" } := by decide +kernel
  -- The characters in common stand between the declaration and the two references.
  obtain ⟨first, second, h, hbody, hbody'⟩ : ∃ first second, Varies first second ∧
      Document.body? octets = some first ∧ Document.body? other = some second := by
    have hdeclared := (Varies.nil.common "<!DOCTYPE properties [".toList).redefined [' '] ['n']
      " '<port/>'".toList " SYSTEM 'u'".toList ⟨.start false .none, by decide +kernel⟩
      (List.all_eq_true.1 rfl) (by decide) (by decide +kernel) (by decide +kernel)
    have hdropped := (hdeclared.common "]><properties>".toList).dropped ['n']
      ⟨.start false .none, by decide +kernel⟩ (by decide) (by decide)
    have hspelled := (hdropped.common "<server><host>".toList).spelled ['n']
      ⟨.start false .none, by decide +kernel⟩ (by decide) (by decide)
    exact ⟨_, _, hspelled.common "</host></server></properties>".toList, by decide +kernel,
      by decide +kernel⟩
  refine ⟨⟨first, second, hbody, hbody', h⟩, hread, hread', hf, ?_⟩
  refine (ofOctets_of_varies hbody hbody' h hread hread' "v" "w" "a.xml" "b.xml").resolve_right ?_
  rintro ⟨-, unreadable, hname | hname⟩
  · rw [hf] at hname
    cases hname
  · rw [hs] at hname
    cases hname

/-- The name of a namespace is the text of an entity. Where that is empty, its prefix stands for
nothing, and the name that is qualified by it cannot be read. -/
theorem ofOctets_of_varies_misnamed :
    let octets (text : String) := ("<!DOCTYPE properties [<!ENTITY n '" ++ text ++
      "'>]><properties xmlns:p='&n;'><p:x/><?xmlfoo?></properties>").toUTF8.toList
    (∃ first second, Document.body? (octets "urn:a") = some first ∧
      Document.body? (octets "") = some second ∧ Varies first second) ∧
      (readGuarded (octets "urn:a")).isOk = true ∧ (readGuarded (octets "")).isOk = true ∧
        (ofOctets "v" "a.xml" (octets "urn:a")).result = .ok (defaults "v") ∧
          (ofOctets "v" "a.xml" (octets "")).result = .error (.invalidName "p:x") := by
  intro octets
  refine ⟨?_, by decide +kernel, by decide +kernel, by decide +kernel, by decide +kernel⟩
  obtain ⟨first, second, h, hbody, hbody'⟩ : ∃ first second, Varies first second ∧
      Document.body? (octets "urn:a") = some first ∧ Document.body? (octets "") = some second := by
    have hdeclared := (Varies.nil.common "<!DOCTYPE properties [".toList).redefined [' '] ['n']
      " 'urn:a'".toList " ''".toList ⟨.start false .none, by decide +kernel⟩
      (List.all_eq_true.1 rfl) (by decide) (by decide +kernel) (by decide +kernel)
    exact ⟨_, _,
      hdeclared.common "]><properties xmlns:p='&n;'><p:x/><?xmlfoo?></properties>".toList,
      by decide +kernel, by decide +kernel⟩
  exact ⟨first, second, hbody, hbody', h⟩

end LayeredConfig.Settings
