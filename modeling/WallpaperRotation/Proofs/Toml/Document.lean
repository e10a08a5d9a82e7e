/-
# Sections of TOML documents read back

A document that was written section by section is read as a table for each of them, with the items
of its values.  Each header, each key with its value and each empty line is one step of the reader;
a step finishes the table before it or adds to the one that is being read.
-/
import WallpaperRotation.Proofs.Toml.Values

namespace WallpaperRotation.Toml

/-! ## Bare keys -/

/-- The key can stand without quotes. -/
def isBareKey (key : String) : Bool :=
  !key.toList.isEmpty && key.toList.all isBare

/-- A character of a bare key is no blank and none of the marks. -/
theorem of_isBare {c : Char} (h : isBare c = true) :
    IsSolid c ∧ c ≠ '[' ∧ c ≠ '"' ∧ c ≠ '\'' := by
  have hne {mark : Char} (hmark : isBare mark = false) : c ≠ mark := by
    rintro rfl
    rw [h] at hmark
    cases hmark
  have hspace : isSpace c = false := by
    unfold isSpace
    rw [decide_eq_false (hne (by decide)), decide_eq_false (hne (by decide))]
    rfl
  exact ⟨⟨hspace, hne (by decide), hne (by decide), hne (by decide)⟩, hne (by decide),
    hne (by decide), hne (by decide)⟩

/-- A bare key has characters, and all of them are bare. -/
theorem of_isBareKey {key : String} (h : isBareKey key = true) :
    key.toList ≠ [] ∧ ∀ c ∈ key.toList, isBare c = true := by
  obtain ⟨hne, hall⟩ := Bool.and_eq_true_iff.1 h
  exact ⟨by simpa using hne, List.all_eq_true.1 hall⟩

/-- A bare key starts with one of its characters. -/
theorem exists_eq_cons_of_isBareKey {key : String} (h : isBareKey key = true) :
    ∃ c others, key.toList = c :: others ∧ isBare c = true := by
  obtain ⟨hne, hall⟩ := of_isBareKey h
  obtain ⟨c, others, heq⟩ := List.exists_cons_of_ne_nil hne
  exact ⟨c, others, heq, hall c (heq ▸ List.mem_cons_self)⟩

/-- Blanks are not skipped where there are none. -/
theorem skipSpace_cons {c : Char} (h : isSpace c = false) (rest : List Char) :
    skipSpace (c :: rest) = c :: rest :=
  List.dropWhile_cons_of_neg (by simp [h])

/-- A bare key is read up to what cannot stand in it. -/
theorem keyPart?_append {key : String} (h : isBareKey key = true) {c : Char}
    (hstop : isBare c = false) (rest : List Char) :
    keyPart? (key.toList ++ c :: rest) = some (key, c :: rest) := by
  obtain ⟨hne, hall⟩ := of_isBareKey h
  obtain ⟨first, others, hkey, hfirst⟩ := exists_eq_cons_of_isBareKey h
  have htake : (key.toList ++ c :: rest).takeWhile isBare = key.toList := by
    rw [List.takeWhile_append_of_pos hall, List.takeWhile_cons_of_neg (by simp [hstop]),
      List.append_nil]
  have hdrop : (key.toList ++ c :: rest).dropWhile isBare = c :: rest := by
    rw [List.dropWhile_append_of_pos hall, List.dropWhile_cons_of_neg (by simp [hstop])]
  unfold keyPart?
  split
  · rename_i heq
    rw [hkey] at heq
    exact absurd (List.cons.inj heq).1 (of_isBare hfirst).2.2.1
  · rename_i heq
    rw [hkey] at heq
    exact absurd (List.cons.inj heq).1 (of_isBare hfirst).2.2.2
  · rw [htake, hdrop, if_neg hne, String.ofList_toList]

/-- A bare key of one part is read up to the mark behind it. -/
theorem key?_append {key : String} (h : isBareKey key = true) (parts : Nat) {c mark : Char}
    {rest behind : List Char} (hstop : isBare c = false)
    (hmark : skipSpace (c :: rest) = mark :: behind) (hdot : mark ≠ '.') :
    key? (parts + 1) (key.toList ++ c :: rest) = some ([key], mark :: behind) := by
  obtain ⟨first, others, hkey, hfirst⟩ := exists_eq_cons_of_isBareKey h
  have hskip : skipSpace (key.toList ++ c :: rest) = key.toList ++ c :: rest := by
    rw [hkey]
    exact skipSpace_cons (of_isBare hfirst).1.1 _
  rw [key?, hskip, keyPart?_append h hstop]
  simp only [Option.bind_eq_bind, Option.bind_some, hmark]
  split
  · rename_i heq
    exact absurd (List.cons.inj heq).1 hdot
  · rfl

/-! ## Tables -/

/-- A key that is not there stands for nothing. -/
theorem lookUp_eq_none {key : String} {members : Members} (h : key ∉ members.map Prod.fst) :
    lookUp key members = none := by
  rw [lookUp, List.find?_eq_none.2]
  · rfl
  · intro member hmember heq
    exact h (List.mem_map.2 ⟨member, hmember, by simpa using heq⟩)

/-- A key that is not there is put behind the others. -/
theorem addNew_of_not_mem {key : String} {members : Members} (h : key ∉ members.map Prod.fst)
    (item : Item) : addNew key item members = some (members ++ [(key, item)]) := by
  rw [addNew, lookUp_eq_none h]

/-- The table of a header is finished by putting it behind the others. -/
theorem close?_of_not_mem {root : Members} {name : String} (h : name ∉ root.map Prod.fst)
    (current : Members) :
    Draft.close? ⟨root, [name], false, current⟩ =
      some (root ++ [(name, .table .header current)]) :=
  addNew_of_not_mem h _

/-- A header of a new name begins an empty table. -/
theorem reserve?_of_not_mem {root : Members} {name : String} (h : name ∉ root.map Prod.fst) :
    reserve? root [name] = some ([], root) := by
  have hholder : reserve?.holder [name].dropLast root = some root := rfl
  rw [reserve?, hholder]
  simp only [List.getLast?_singleton, Option.bind_eq_bind, Option.bind_some, lookUp_eq_none h]
  rfl

/-- A key that is not there is added to the table of a header. -/
theorem addDotted_of_not_mem {key : String} {members : Members} (h : key ∉ members.map Prod.fst)
    (item : Item) :
    addDotted [] key item .header members = some (members ++ [(key, item)]) := by
  rw [addDotted, extend, if_neg (by decide)]
  exact addNew_of_not_mem h item

/-! ## Steps of the reader -/

/-- The reader comes from a draft and a text to another draft and what is left of the text, in no
more steps than there are characters between them. -/
def Comes (draft : Draft) (text : List Char) (next : Draft) (rest : List Char) : Prop :=
  ∃ steps, steps + rest.length ≤ text.length ∧
    ∀ fuel, lines? (fuel + steps) draft text = lines? fuel next rest

section Steps

variable {draft next last : Draft} {text rest behind : List Char} {root : Members}
  {key name : String}

/-- Without a step the reader stays. -/
theorem Comes.refl (draft : Draft) (text : List Char) : Comes draft text draft text :=
  ⟨0, Nat.le_of_eq (Nat.zero_add _), fun _ => rfl⟩

/-- The reader goes on from where it came to. -/
theorem Comes.trans (h : Comes draft text next rest) (hmore : Comes next rest last behind) :
    Comes draft text last behind := by
  obtain ⟨steps, hlength, hlines⟩ := h
  obtain ⟨others, hothers, hrest⟩ := hmore
  refine ⟨others + steps, by omega, fun fuel => ?_⟩
  rw [← Nat.add_assoc, hlines, hrest]

/-- A reader that comes to the end has read its draft. -/
theorem Comes.lines? (h : Comes draft text next []) :
    lines? (text.length + 1) draft text = some next := by
  obtain ⟨steps, hlength, hlines⟩ := h
  have hfuel : text.length + 1 = (text.length - steps) + 1 + steps := by
    rw [List.length_nil] at hlength
    omega
  rw [hfuel, hlines]
  rfl

/-- An empty line leaves the draft as it is. -/
theorem comes_break (draft : Draft) (rest : List Char) : Comes draft ('\n' :: rest) draft rest :=
  ⟨1, Nat.le_of_eq (Nat.add_comm 1 _), fun _ => rfl⟩

/-- A header of a new name finishes the table before it and begins its own. -/
theorem comes_header (hname : isBareKey name = true) (hclose : draft.close? = some root)
    (hnew : name ∉ root.map Prod.fst) (rest : List Char) :
    Comes draft ('[' :: (name.toList ++ ']' :: '\n' :: rest)) ⟨root, [name], false, []⟩ rest := by
  obtain ⟨first, others, hfirst, hbare⟩ := exists_eq_cons_of_isBareKey hname
  -- A second bracket would make it the header of one of several tables.
  have hone : ('[' :: (name.toList ++ ']' :: '\n' :: rest)).take 2 ≠ ['[', '['] := by
    rw [hfirst]
    simpa using (of_isBare hbare).2.1
  have hkey : key? (depthLimit - 1) (name.toList ++ ']' :: '\n' :: rest) =
      some ([name], ']' :: '\n' :: rest) :=
    key?_append hname 78 (by decide) (skipSpace_cons (by decide) _) (by decide)
  have hheader : header? draft ('[' :: (name.toList ++ ']' :: '\n' :: rest)) =
      some (⟨root, [name], false, []⟩, rest) := by
    have hline : behindLine? ('\n' :: rest) = some rest := rfl
    have hmark : behindMark? ']' (']' :: '\n' :: rest) = some ('\n' :: rest) := rfl
    simp only [header?, if_neg hone, List.drop_succ_cons, List.drop_zero, hkey,
      Option.bind_eq_bind, Option.bind_some, hmark, hline, hclose, reserve?_of_not_mem hnew]
  refine ⟨1, ?_, fun fuel => ?_⟩
  · simp only [List.length_cons, List.length_append]
    omega
  · rw [Toml.lines?, skipSpace_cons (by decide)]
    simp only [hheader, Option.bind_eq_bind, Option.bind_some]

/-- A key with a value is added to the table that is being read. -/
theorem comes_entry (draft : Draft) (hkey : isBareKey key = true)
    (hnew : key ∉ draft.current.map Prod.fst) (value : Value) (rest : List Char) :
    Comes draft (key.toList ++ ' ' :: '=' :: ' ' :: (value.render ++ '\n' :: rest))
      { draft with current := draft.current ++ [(key, value.item)] } rest := by
  obtain ⟨first, others, hfirst, hbare⟩ := exists_eq_cons_of_isBareKey hkey
  obtain ⟨hsolid, hbracket, -⟩ := of_isBare hbare
  have hread : key? (depthLimit - 1)
      (key.toList ++ ' ' :: '=' :: ' ' :: (value.render ++ '\n' :: rest)) =
        some ([key], '=' :: ' ' :: (value.render ++ '\n' :: rest)) :=
    key?_append hkey 78 (by decide) rfl (by decide)
  have hvalue : value? (depthLimit - 1) (skipSpace (' ' :: (value.render ++ '\n' :: rest))) =
      some (value.item, '\n' :: rest) := by
    obtain ⟨c, body, hrender, hc⟩ := exists_render_eq_cons value
    have hskip : skipSpace (' ' :: (value.render ++ '\n' :: rest)) =
        value.render ++ '\n' :: rest := by
      rw [hrender]
      exact skipSpace_cons hc _
    rw [hskip]
    exact value?_render 78 value (unquoted_cons ⟨by decide, by decide⟩ rest)
  have hentry : entry? draft
      (key.toList ++ ' ' :: '=' :: ' ' :: (value.render ++ '\n' :: rest)) =
        some ({ draft with current := draft.current ++ [(key, value.item)] }, rest) := by
    have hline : behindLine? ('\n' :: rest) = some rest := rfl
    have hmark : behindMark? '=' ('=' :: ' ' :: (value.render ++ '\n' :: rest)) =
        some (' ' :: (value.render ++ '\n' :: rest)) := rfl
    have hadd := addDotted_of_not_mem hnew value.item
    unfold entry?
    simp only [hread, Option.bind_eq_bind, Option.bind_some, hmark, hvalue, hline,
      List.getLast?_singleton, List.dropLast_singleton, hadd]
  refine ⟨1, ?_, fun fuel => ?_⟩
  · simp only [List.length_cons, List.length_append]
    omega
  · rw [hfirst] at hentry ⊢
    rw [Toml.lines?, List.cons_append, skipSpace_cons hsolid.1]
    split
    · rename_i heq
      cases heq
    · rename_i heq
      exact absurd (List.cons.inj heq).1 hsolid.2.1
    · rename_i heq
      exact absurd (List.cons.inj heq).1 hbracket
    · rw [hsolid.behindBreak?_cons, ← List.cons_append, hentry]
      rfl

end Steps

/-! ## Sections -/

/-- The members of a section. -/
def Section.members (part : Section) : Members :=
  part.entries.map fun entry => (entry.1, entry.2.item)

/-- The section can be written: its name and its keys are bare, and no key stands twice. -/
structure Section.IsPlain (part : Section) : Prop where
  name : isBareKey part.name = true
  keys : ∀ key ∈ part.entries.map Prod.fst, isBareKey key = true
  nodup : (part.entries.map Prod.fst).Nodup

/-- The tables of some sections. -/
def tablesOf (sections : List Section) : Members :=
  sections.map fun part => (part.name, .table .header part.members)

/-- The line of a key and its value. -/
def entryLine (entry : String × Value) : List Char :=
  entry.1.toList ++ " = ".toList ++ entry.2.render ++ ['\n']

/-- A section is its header and the lines of its keys. -/
theorem Section.render_eq (part : Section) :
    part.render = '[' :: (part.name.toList ++ [']', '\n']) ++ part.entries.flatMap entryLine :=
  rfl

/-- Lines with keys and values are added to the table that is being read. -/
theorem comes_entries {entries : List (String × Value)} (draft : Draft)
    (hkeys : ∀ key ∈ entries.map Prod.fst, isBareKey key = true)
    (hnodup : (draft.current.map Prod.fst ++ entries.map Prod.fst).Nodup) (rest : List Char) :
    Comes draft (entries.flatMap entryLine ++ rest)
      { draft with
        current := draft.current ++ entries.map fun entry => (entry.1, entry.2.item) } rest := by
  induction entries generalizing draft with
  | nil => simpa using Comes.refl draft rest
  | cons entry entries ih =>
    obtain ⟨key, value⟩ := entry
    -- The table grows with each line, so the keys of the rest have to be new to the longer one.
    have hnew : key ∉ draft.current.map Prod.fst := fun hmem =>
      (List.nodup_append.1 hnodup).2.2 key hmem key List.mem_cons_self rfl
    have hothers := ih { draft with current := draft.current ++ [(key, value.item)] }
      (fun other hother => hkeys other (List.mem_cons_of_mem key hother))
      (by simpa using hnodup)
    have hfirst := comes_entry draft (hkeys key List.mem_cons_self) hnew value
      (entries.flatMap entryLine ++ rest)
    simpa [entryLine] using hfirst.trans hothers

/-- A section is read as the table of its header. -/
theorem comes_section {part : Section} (h : part.IsPlain) {draft : Draft} {root : Members}
    (hclose : draft.close? = some root) (hnew : part.name ∉ root.map Prod.fst)
    (rest : List Char) :
    Comes draft (part.render ++ rest) ⟨root, [part.name], false, part.members⟩ rest := by
  have hheader := comes_header h.name hclose hnew (part.entries.flatMap entryLine ++ rest)
  have hentries := comes_entries ⟨root, [part.name], false, []⟩ h.keys (by simpa using h.nodup) rest
  simpa [Section.render_eq, Section.members] using hheader.trans hentries

/-- Sections of different names are read as their tables. -/
theorem exists_comes_sections {sections : List Section} (hplain : ∀ part ∈ sections, part.IsPlain)
    {draft : Draft} {root : Members} (hclose : draft.close? = some root)
    (hnodup : (root.map Prod.fst ++ sections.map Section.name).Nodup) :
    ∃ last, Comes draft (renderSections sections) last [] ∧
      last.close? = some (root ++ tablesOf sections) := by
  induction sections generalizing draft root with
  | nil =>
    refine ⟨draft, Comes.refl draft [], ?_⟩
    rw [hclose, tablesOf, List.map_nil, List.append_nil]
  | cons part sections ih =>
    have hnew : part.name ∉ root.map Prod.fst := fun hmem =>
      (List.nodup_append.1 hnodup).2.2 part.name hmem part.name List.mem_cons_self rfl
    have hpart := comes_section (hplain part List.mem_cons_self) hclose hnew
    obtain ⟨last, hlast, htables⟩ := ih
      (fun other hother => hplain other (List.mem_cons_of_mem part hother))
      (close?_of_not_mem hnew part.members) (by simpa using hnodup)
    refine ⟨last, ?_, by rw [htables]; simp [tablesOf]⟩
    cases sections with
    | nil => simpa [renderSections] using (hpart []).trans hlast
    | cons second sections => exact (hpart _).trans ((comes_break _ _).trans hlast)

/-- A document of sections starts with the bracket of its first header. -/
theorem exists_renderSections_eq_cons (part : Section) (sections : List Section) :
    ∃ others, renderSections (part :: sections) = '[' :: others := by
  cases sections with
  | nil => exact ⟨_, rfl⟩
  | cons second sections => exact ⟨_, rfl⟩

/-- A document written in sections is read as their tables. -/
theorem parse?_renderSections {sections : List Section}
    (hplain : ∀ part ∈ sections, part.IsPlain) (hnodup : (sections.map Section.name).Nodup) :
    parse? (String.ofList (renderSections sections)) = some (tablesOf sections) := by
  obtain ⟨last, hlast, htables⟩ := exists_comes_sections hplain
    (show Draft.blank.close? = some [] from rfl) hnodup
  have hlines := hlast.lines?
  unfold parse?
  rw [String.toList_ofList]
  cases sections with
  | nil => rfl
  | cons part sections =>
    obtain ⟨others, hfirst⟩ := exists_renderSections_eq_cons part sections
    have hbracket : ¬ '['.toNat = 0xFEFF := by decide
    rw [hfirst] at hlines ⊢
    simp only [if_neg hbracket, hlines, Option.bind_eq_bind, Option.bind_some, htables,
      List.nil_append]

end WallpaperRotation.Toml
