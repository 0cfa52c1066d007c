import SlideDeck.Proofs.Rendering.PageNesting
import SlideDeck.Proofs.Rendering.TagReading

/-!
Contract: settings in the head of a page are texts, whatever they say.

The head is written from five texts of the deck and the configuration, each escaped. It has the same
tags for all of them; what stands between its marks is read back and decoded.

Owns:
- `HeadTexts`, the texts of a head, and its passages;
- `headPart`, the head as a part of the page, and that it is the head that was written;
- `head_not_injectable`.

Does not own: the body of a page.
-/

namespace SlideDeck.Page

open SlideDeck.Markup
open SlideDeck.Text (escape unescape)

/-- The texts in the head of a page. A theme that is empty is absent, and the theme for code is
there only if code is highlighted. -/
structure HeadTexts where
  lang : String
  title : String
  stylesheet : String
  theme : Option String
  codeTheme : Option String
deriving DecidableEq, Repr

def headTexts (deck : Deck) (config : Config) : HeadTexts where
  lang := deck.lang.getD config.defaultLang
  title := deck.title.getD ""
  stylesheet := config.stylesheet
  theme := present deck.theme
  codeTheme :=
    if config.highlight then some (deck.codeTheme.getD config.defaultCodeTheme) else none

/-! ### Passages of a head -/

def themeAddress (theme : String) : String :=
  theme ++ ".css"

def codeThemeAddress (theme : String) : String :=
  highlighterBase ++ "/styles/" ++ theme ++ ".min.css"

def linkPassage (address : String) : Passage :=
  ⟨"\n    ", "link", [("rel", "stylesheet"), ("href", escape address)]⟩

def documentType : String := "<!DOCTYPE html>"

namespace HeadTexts

variable (texts : HeadTexts)

/-- The stylesheets that a head links to. -/
def addresses : List String :=
  texts.stylesheet ::
    (texts.theme.toList.map themeAddress ++ texts.codeTheme.toList.map codeThemeAddress)

/-- The passages between the type of the document and the links. -/
def opening : List Passage :=
  [⟨"\n", "html", [("lang", escape texts.lang)]⟩, ⟨"\n", "head", []⟩,
    ⟨"\n    ", "meta", [("charset", "UTF-8")]⟩,
    ⟨"\n    ", "meta",
      [("name", "viewport"), ("content", "width=device-width, initial-scale=1.0")]⟩,
    ⟨"\n    ", "title", []⟩, ⟨escape texts.title, "/title", []⟩]

/-- The passages behind the links. -/
def scripts : List Passage :=
  if texts.codeTheme.isSome then
    [⟨"\n    ", "script", [("src", highlighterBase ++ "/highlight.min.js")]⟩, ⟨"", "/script", []⟩]
  else []

/-- The passages of a head behind the type of the document. -/
def passages : List Passage :=
  texts.opening ++ texts.addresses.map linkPassage ++ texts.scripts

/-- The text of a head up to its closing tag. -/
def written : String :=
  documentType ++ Passage.writtenAll texts.passages ++ "\n"

end HeadTexts

theorem escape_themeAddress (theme : String) :
    escape (themeAddress theme) = escape theme ++ ".css" := by
  have plain : escape ".css" = ".css" := by decide
  rw [themeAddress, Text.escape_append, plain]

theorem escape_codeThemeAddress (theme : String) :
    escape (codeThemeAddress theme) =
      highlighterBase ++ "/styles/" ++ escape theme ++ ".min.css" := by
  have base : escape (highlighterBase ++ "/styles/") = highlighterBase ++ "/styles/" := by decide
  have ending : escape ".min.css" = ".min.css" := by decide
  rw [codeThemeAddress, Text.escape_append, Text.escape_append, base, ending]

theorem head_eq (deck : Deck) (config : Config) :
    head deck config = (headTexts deck config).written ++ closeTag "head" ++ "\n" := by
  have titleEnd : closeTag "title" = openTag "/title" [] := by decide
  have scriptEnd : closeTag "script" = openTag "/script" [] := by decide
  apply String.toList_inj.mp
  unfold head headTexts HeadTexts.written documentType HeadTexts.passages HeadTexts.opening
    HeadTexts.scripts HeadTexts.addresses
  cases present deck.theme with
  | none =>
      cases config.highlight with
      | false =>
          simp [stylesheetLink, indented, line, linkPassage, Passage.written, Passage.writtenAll,
            element, titleEnd]
      | true =>
          simp [stylesheetLink, indented, line, linkPassage, Passage.written, Passage.writtenAll,
            element, titleEnd, scriptEnd, highlighter, escape_codeThemeAddress]
  | some theme =>
      cases config.highlight with
      | false =>
          simp [stylesheetLink, indented, line, linkPassage, Passage.written, Passage.writtenAll,
            element, titleEnd, escape_themeAddress]
      | true =>
          simp [stylesheetLink, indented, line, linkPassage, Passage.written, Passage.writtenAll,
            element, titleEnd, scriptEnd, highlighter, escape_themeAddress,
            escape_codeThemeAddress]

/-! ### Clean passages -/

theorem clean_linkPassage (address : String) : (linkPassage address).Clean := by
  have relation : Markless "rel" ∧ '=' ∉ "rel".toList ∧ Markless "stylesheet" := by decide
  have target : Markless "href" ∧ '=' ∉ "href".toList := by decide
  apply Passage.Clean.of_parts (by decide) (by decide) (by decide)
  exact .cons relation.1 relation.2.1 relation.2.2
    (.cons target.1 target.2 (markless_escape address) .nil)

namespace HeadTexts

variable (texts : HeadTexts)

theorem clean_opening : ∀ passage ∈ texts.opening, passage.Clean := by
  have lang : CleanAttributes [("lang", escape texts.lang)] :=
    .cons (by decide) (by decide) (markless_escape texts.lang) .nil
  have html : Passage.Clean ⟨"\n", "html", [("lang", escape texts.lang)]⟩ :=
    .of_parts (by decide) (by decide) (by decide) lang
  have title : Passage.Clean ⟨escape texts.title, "/title", []⟩ :=
    .of_parts (markless_escape texts.title) (by decide) (by decide) .nil
  simp only [opening, List.forall_mem_cons]
  exact ⟨html, by decide, by decide, by decide, by decide, title, by simp⟩

theorem clean_scripts : ∀ passage ∈ texts.scripts, passage.Clean := by
  unfold scripts
  split
  · decide
  · simp

theorem clean : ∀ passage ∈ texts.passages, passage.Clean := by
  rw [passages, List.forall_mem_append, List.forall_mem_append, List.forall_mem_map]
  exact ⟨⟨clean_opening texts, fun address _ => clean_linkPassage address⟩, clean_scripts texts⟩

theorem name_ne : ∀ passage ∈ texts.passages, passage.name ≠ "/" ++ "head" := by
  rw [passages, List.forall_mem_append, List.forall_mem_append, List.forall_mem_map]
  refine ⟨⟨?_, fun address _ => ?_⟩, ?_⟩
  · simp [opening]
  · simp [linkPassage]
  · unfold scripts
    split <;> simp

/-- How many attributes the tags of a head have depends on which of its texts are there. -/
theorem attributeCounts : texts.passages.map (·.attributes.length) =
    [1, 0, 1, 2, 0, 0, 2] ++ (if texts.theme.isSome then [2] else []) ++
      (if texts.codeTheme.isSome then [2, 1, 0] else []) := by
  obtain ⟨lang, title, stylesheet, theme, codeTheme⟩ := texts
  cases theme with
  | none => cases codeTheme <;> rfl
  | some theme => cases codeTheme <;> rfl

theorem marksOf_written : marksOf texts.written = marksOf documentType ++
    ([1, 0, 1, 2, 0, 0, 2] ++ (if texts.theme.isSome then [2] else []) ++
      (if texts.codeTheme.isSome then [2, 1, 0] else [])).flatMap tagMarks := by
  have newline : marksOf "\n" = [] := by decide
  rw [written, marksOf_append, marksOf_append, marksOf_writtenAll texts.clean, attributeCounts,
    newline, List.append_nil]

/-! ### Reading a head -/

/-- The type of the document is read as a tag of its own. -/
theorem passages_written : Markup.passages texts.written.toList =
    ⟨"", "!DOCTYPE", []⟩ :: texts.passages := by
  have split : texts.written.toList = "<!DOCTYPE html".toList ++ '>' ::
      ((Passage.writtenAll texts.passages).toList ++ ['\n']) := by
    simp [written, documentType]
  have noEnd : '>' ∉ "<!DOCTYPE html".toList := by decide
  have type : readPassage "<!DOCTYPE html".toList = ⟨"", "!DOCTYPE", []⟩ := by decide
  have ending : Markup.passages ['\n'] = [] := passages_of_noEnd (by decide)
  have behind := passages_writtenAll texts.clean ['\n']
  rw [ending, List.append_nil] at behind
  rw [split, passages_piece noEnd, type, behind]

/-- Apart from the links, the tags of a name stand in front of the links or behind them. -/
theorem filter_passages {name : String} (notType : name ≠ "!DOCTYPE") (notLink : name ≠ "link") :
    (Markup.passages texts.written.toList).filter (·.name == name) =
      texts.opening.filter (·.name == name) ++ texts.scripts.filter (·.name == name) := by
  have links : (texts.addresses.map linkPassage).filter (·.name == name) = [] := by
    rw [List.filter_map, List.map_eq_nil_iff, List.filter_eq_nil_iff]
    intro address _
    simpa [linkPassage] using Ne.symm notLink
  rw [passages_written, List.filter_cons_of_neg (by simpa using Ne.symm notType), passages,
    List.filter_append, List.filter_append, links, List.append_nil]

theorem filter_links :
    (Markup.passages texts.written.toList).filter (·.name == "link") =
      texts.addresses.map linkPassage := by
  have links : (texts.addresses.map linkPassage).filter (·.name == "link") =
      texts.addresses.map linkPassage := by
    rw [List.filter_eq_self, List.forall_mem_map]
    exact fun address _ => rfl
  have noScripts : texts.scripts.filter (·.name == "link") = [] := by
    unfold scripts
    split <;> rfl
  rw [passages_written, List.filter_cons_of_neg (by decide), passages, List.filter_append,
    List.filter_append, links, noScripts, List.append_nil]
  rfl

theorem lang_written : attributeValues "html" "lang" texts.written = [texts.lang] := by
  rw [attributeValues, filter_passages texts (by decide) (by decide), scripts]
  split <;> simp [opening, Text.unescape_escape]

theorem title_written : elementTexts "title" texts.written = [texts.title] := by
  rw [elementTexts, filter_passages texts (by decide) (by decide), scripts]
  split <;> simp [opening, Text.unescape_escape]

theorem links_written : attributeValues "link" "href" texts.written = texts.addresses := by
  have decoded : ∀ address : String, ((linkPassage address).attributes.filter (·.1 == "href")).map
      (fun pair => unescape pair.2) = [address] := by
    intro address
    simp [linkPassage, Text.unescape_escape]
  rw [attributeValues, filter_links]
  simp [List.flatMap_map, decoded]

theorem scripts_written :
    (attributeValues "script" "src" texts.written).isEmpty = !texts.codeTheme.isSome := by
  rw [attributeValues, filter_passages texts (by decide) (by decide), scripts]
  cases texts.codeTheme with
  | none => simp [opening]
  | some theme => simp [opening]

end HeadTexts

/-- What stands between two texts, one at either end of a third one. -/
def between (front back text : String) : String :=
  let inner := text.toList.drop front.toList.length
  String.ofList (inner.take (inner.length - back.toList.length))

theorem between_append (front text back : String) :
    between front back (front ++ text ++ back) = text := by
  simp [between]

/-- Reads the texts of a head from its attributes and its title. The last stylesheet is that for
code if there is a script. -/
def readHeadTexts (head : String) : Option HeadTexts :=
  match attributeValues "html" "lang" head, elementTexts "title" head,
    attributeValues "link" "href" head with
  | [lang], [title], stylesheet :: themes =>
      let highlighted := !(attributeValues "script" "src" head).isEmpty
      some {
        lang, title, stylesheet
        theme := (if highlighted then themes.dropLast else themes).head?.map (between "" ".css")
        codeTheme :=
          if highlighted then
            themes.getLast?.map (between (highlighterBase ++ "/styles/") ".min.css")
          else none }
  | _, _, _ => none

theorem readHeadTexts_written (texts : HeadTexts) : readHeadTexts texts.written = some texts := by
  have themeRead : ∀ theme, between "" ".css" (themeAddress theme) = theme := by
    intro theme
    have whole := between_append "" theme ".css"
    rwa [String.empty_append] at whole
  have codeThemeRead : ∀ theme,
      between (highlighterBase ++ "/styles/") ".min.css" (codeThemeAddress theme) = theme :=
    fun theme => between_append (highlighterBase ++ "/styles/") theme ".min.css"
  obtain ⟨lang, title, stylesheet, theme, codeTheme⟩ := texts
  rw [readHeadTexts, HeadTexts.lang_written, HeadTexts.title_written, HeadTexts.links_written,
    HeadTexts.scripts_written, HeadTexts.addresses]
  cases theme with
  | none => cases codeTheme <;> simp [codeThemeRead]
  | some theme => cases codeTheme <;> simp [themeRead, codeThemeRead]

/-! ### The head of a page -/

/-- A page up to the first closing tag of a head. -/
def headPart (page : String) : String :=
  String.ofList (upTo (closeTag "head").toList page.toList)

theorem upTo_documentType (rest : List Char) :
    upTo (closeTag "head").toList (documentType.toList ++ rest) =
      documentType.toList ++ upTo (closeTag "head").toList rest := by
  have letters : documentType.toList = '<' :: "!DOCTYPE html>".toList := by decide
  have noTag : '<' ∉ "!DOCTYPE html>".toList := by decide
  have notHere : ¬(closeTag "head").toList <+: '<' :: ("!DOCTYPE html>".toList ++ rest) := by
    rw [closeTag_toList]
    simp
  rw [letters, List.cons_append, upTo, if_neg notHere, closeTag_toList, upTo_append noTag]
  rfl

section Pages

variable {deck : Deck} {config : Config} {text : String}

/-- The head of a page is the one that was written: no text in it ends it earlier. -/
theorem headPart_page (rendered : page deck config = .ok text) :
    headPart text = (headTexts deck config).written := by
  obtain ⟨-, -, rfl⟩ := page_ok_iff.mp rendered
  have inHead : ∀ rest, upTo (closeTag "head").toList
      ((Passage.writtenAll (headTexts deck config).passages).toList ++ rest) =
        (Passage.writtenAll (headTexts deck config).passages).toList ++
          upTo (closeTag "head").toList rest :=
    upTo_writtenAll (headTexts deck config).clean (by decide) (by decide)
      (headTexts deck config).name_ne
  have atEnd : ∀ rest, upTo (closeTag "head").toList
      ("\n".toList ++ ((closeTag "head").toList ++ rest)) = "\n".toList := by
    intro rest
    have noTag : '<' ∉ "\n".toList := by decide
    have ended := upTo_closeTag "head" rest
    rw [closeTag_toList] at ended ⊢
    rw [upTo_append noTag, ended, List.append_nil]
  apply String.toList_inj.mp
  rw [headPart, String.toList_ofList, head_eq, HeadTexts.written]
  simp only [String.toList_append, List.append_assoc]
  rw [upTo_documentType, inHead, atEnd]

/-- Settings cannot add to the head of a page. Two pages with and without the same links have the
same tags and quotes in their heads, whatever the settings say, and all settings are read back from
the head. It does not depend on the slides. -/
theorem head_not_injectable {other : Deck} {otherConfig : Config} {otherText : String}
    (rendered : page deck config = .ok text) (otherRendered : page other otherConfig = .ok otherText)
    (themes : (present deck.theme).isSome = (present other.theme).isSome)
    (highlights : config.highlight = otherConfig.highlight) :
    marksOf (headPart text) = marksOf (headPart otherText) ∧
      readHeadTexts (headPart text) = some (headTexts deck config) ∧
      ∀ slides changed, page { deck with slides := slides } config = .ok changed →
        headPart changed = headPart text := by
  have codeThemes : (headTexts deck config).codeTheme.isSome =
      (headTexts other otherConfig).codeTheme.isSome := by
    unfold headTexts
    rw [highlights]
    cases otherConfig.highlight <;> rfl
  have sameTheme : (headTexts deck config).theme.isSome =
      (headTexts other otherConfig).theme.isSome := themes
  refine ⟨?_, ?_, ?_⟩
  · rw [headPart_page rendered, headPart_page otherRendered, HeadTexts.marksOf_written,
      HeadTexts.marksOf_written, sameTheme, codeThemes]
  · rw [headPart_page rendered, readHeadTexts_written]
  · intro slides changed changedRendered
    rw [headPart_page changedRendered, headPart_page rendered]
    rfl

end Pages

/-- A deck whose texts try to end the head and to begin tags of their own. -/
def hostileDeck : Deck :=
  { Deck.empty with
    title := some "</title></head>"
    lang := some "en\"><script>"
    theme := some "dark.css\"><"
    codeTheme := some "&quot;"
    slides := [⟨none, none, none, .plain none⟩] }

def tameDeck : Deck :=
  { Deck.empty with
    theme := some "dark"
    slides := [⟨none, none, none, .plain none⟩] }

theorem head_not_injectable_sample :
    ∃ text otherText,
      page hostileDeck Config.default = .ok text ∧ page tameDeck Config.default = .ok otherText ∧
        marksOf (headPart text) = marksOf (headPart otherText) ∧
        readHeadTexts (headPart text) = some (headTexts hostileDeck Config.default) := by
  have rendered : ∃ text, page hostileDeck Config.default = .ok text := ⟨_, rfl⟩
  have otherRendered : ∃ text, page tameDeck Config.default = .ok text := ⟨_, rfl⟩
  obtain ⟨text, rendered⟩ := rendered
  obtain ⟨otherText, otherRendered⟩ := otherRendered
  have shown := head_not_injectable rendered otherRendered rfl rfl
  exact ⟨text, otherText, rendered, otherRendered, shown.1, shown.2.1⟩

end SlideDeck.Page
