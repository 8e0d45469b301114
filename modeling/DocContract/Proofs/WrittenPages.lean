import DocContract.Page
import DocContract.Proofs.WrittenHtml
import DocContract.Proofs.WrittenJson

/-!
# Reading written pages

A page that is written into an HTML document is read back from it, whatever its texts are.
The payload has no control characters and no quotes once it is escaped, so it is the value
of one attribute; the element with this attribute is the first that has it; and the value,
with its character references decoded, is the JSON text from which the page is read.
-/

namespace DocContract

open Json (ReadsBack MembersRead)

theorem Location.readsBack (location : Location) :
    ReadsBack (Json.choice Location.names) (.text location.name) location := by
  apply Json.readsBack_choice
  cases location <;> rfl

theorem Method.readsBack (method : Method) :
    ReadsBack (Json.choice Method.names) (.text method.name) method := by
  apply Json.readsBack_choice
  cases method <;> rfl

theorem EndpointParameter.readsBack (p : EndpointParameter) :
    ReadsBack EndpointParameter.reader p.toJson p := by
  apply Json.readsBack_record
  · apply MembersRead.cons rfl rfl
      (Json.read_ofField "name" (Json.readsBack_text p.name) _)
    apply MembersRead.cons rfl rfl (Json.read_ofField "in" p.location.readsBack _)
    apply MembersRead.cons rfl rfl
      (Json.read_ofField "type" (Json.readsBack_text p.type) _)
    apply MembersRead.cons rfl rfl
      (Json.read_ofField "required" (Json.readsBack_flag p.required) _)
    apply MembersRead.cons rfl rfl
      (Json.read_ofField "desc" (Json.readsBack_text p.description) _)
    apply MembersRead.cons rfl rfl
      (Json.read_ofField "example" (Json.readsBack_text p.sample) _)
    exact .nil
  · rfl

theorem EndpointParameter.readsBack_all (parameters : List EndpointParameter) :
    ReadsBack (Json.array EndpointParameter.reader)
      (.array (parameters.map EndpointParameter.toJson)) parameters := by
  apply Json.readsBack_array
  · rw [List.forall₂_map_left_iff, List.forall₂_same]
    exact fun p _ => p.readsBack
  · rw [List.forall_mem_map]
    exact fun p _ => trivial

theorem Endpoint.readsBack (endpoint : Endpoint) :
    ReadsBack Endpoint.reader endpoint.toJson endpoint := by
  apply Json.readsBack_record
  · apply MembersRead.cons rfl rfl (Json.read_ofField "method" endpoint.method.readsBack _)
    apply MembersRead.cons rfl rfl
      (Json.read_ofField "url" (Json.readsBack_text endpoint.url) _)
    apply MembersRead.cons rfl rfl
      (Json.read_ofField "params" (EndpointParameter.readsBack_all endpoint.parameters) _)
    exact .nil
  · rfl

theorem Page.readsBack (page : Page) : ReadsBack Page.reader page.toJson page := by
  obtain ⟨title, body, endpoint⟩ := page
  cases endpoint with
  | none =>
      apply Json.readsBack_record
      · apply MembersRead.cons rfl rfl
          (Json.read_ofField "title" (Json.readsBack_text title) _)
        apply MembersRead.cons rfl rfl
          (Json.read_ofField "body" (Json.readsBack_text body) _)
        exact .nil
      · rfl
  | some endpoint =>
      have hendpoint : ReadsBack (Json.optional Endpoint.reader) endpoint.toJson
          (some endpoint) :=
        Json.readsBack_optional trivial endpoint.readsBack
      apply Json.readsBack_record
      · apply MembersRead.cons rfl rfl
          (Json.read_ofField "title" (Json.readsBack_text title) _)
        apply MembersRead.cons rfl rfl
          (Json.read_ofField "body" (Json.readsBack_text body) _)
        apply MembersRead.cons rfl rfl (Json.read_ofField "api" hendpoint _)
        exact .nil
      · rfl

theorem Page.readAll_payload (page : Page) :
    Json.readAll Page.payloadReader page.payload = .ok page := by
  apply Json.readAll_compact
  apply Json.readsBack_record
  · apply MembersRead.cons rfl rfl (Json.read_ofField "doc" page.readsBack _)
    exact .nil
  · rfl

namespace Page

theorem decodeValue_escapeHtmlChar {c : Char} (hnull : c ≠ '\x00') (rest : List Char) :
    Html.decodeValue (escapeHtmlChar c ++ rest) = c :: Html.decodeValue rest := by
  have hreference : ∀ (name : List Char) {d : Char}, name.all
    Html.isAsciiAlphanumeric = true →
      Html.lookupName name = some [d] →
        Html.decodeValue ('&' :: (name ++ ';' :: rest)) = d :: Html.decodeValue rest := by
    intro name d hname hlookup
    exact Html.decodeValue_of_reference (Html.reference?_of_lookup hname hlookup rest)
  unfold escapeHtmlChar
  split
  · exact hreference "amp".toList (by decide) rfl
  · exact hreference "quot".toList (by decide) rfl
  · exact hreference "lt".toList (by decide) rfl
  · exact hreference "gt".toList (by decide) rfl
  · next hamp _ _ _ => exact Html.decodeValue_cons hamp hnull rest

theorem decodeValue_escapeHtml {text : List Char} (hnull : '\x00' ∉ text) :
    Html.decodeValue (escapeHtml text) = text := by
  induction text with
  | nil =>
      rw [escapeHtml, List.flatMap_nil, Html.decodeValue]
  | cons c text ih =>
      rw [List.mem_cons, not_or] at hnull
      rw [escapeHtml, List.flatMap_cons, decodeValue_escapeHtmlChar (Ne.symm hnull.1)]
      exact congrArg (c :: ·) (ih hnull.2)

theorem mem_escapeHtmlChar (c : Char) :
    ∀ d ∈ escapeHtmlChar c, d ≠ '"' ∧ d ≠ '<' ∧ (d = c ∨ 0x20 ≤ d.toNat) := by
  unfold escapeHtmlChar
  split
  case h_5 hamp hquote hopen hclose =>
    intro d hd
    obtain rfl : d = c := List.mem_singleton.1 hd
    exact ⟨hquote, hopen, .inl rfl⟩
  all_goals
    rw [← List.all_iff_forall_prop]
    decide

theorem quote_not_mem_escapeHtml (text : List Char) : '"' ∉ escapeHtml text := by
  intro hquote
  obtain ⟨c, -, hc⟩ := List.mem_flatMap.1 hquote
  exact (mem_escapeHtmlChar c _ hc).1 rfl

theorem bracket_not_mem_escapeHtml (text : List Char) : '<' ∉ escapeHtml text := by
  intro hbracket
  obtain ⟨c, -, hc⟩ := List.mem_flatMap.1 hbracket
  exact (mem_escapeHtmlChar c _ hc).2.1 rfl

theorem visible_escapeHtml {text : List Char} (hvisible : Json.Visible text) :
    Json.Visible (escapeHtml text) := by
  intro d hd
  obtain ⟨c, hc, hdc⟩ := List.mem_flatMap.1 hd
  obtain ⟨-, -, rfl | hlow⟩ := mem_escapeHtmlChar c d hdc
  · exact hvisible d hc
  · exact hlow

theorem visible_payload (page : Page) : Json.Visible page.payload :=
  Json.Value.visible_compact _

theorem null_not_mem_payload (page : Page) : '\x00' ∉ page.payload := by
  intro hnull
  have hlow := page.visible_payload _ hnull
  revert hlow
  decide

theorem return_not_mem_escaped_payload (page : Page) : '\r' ∉ escapeHtml page.payload := by
  intro hreturn
  have hlow := visible_escapeHtml page.visible_payload _ hreturn
  revert hlow
  decide

/-! ## The document -/

def attributesOf (name value : List Char) : List (List Char × List Char) :=
  [("id".toList, "ssr-props".toList), (name, value)]

/-- The tag of this element after its angle bracket, and what follows it. -/
def tagText (name value rest : List Char) : List Char :=
  "div".toList ++ ' ' :: ("id".toList ++ '=' :: '"' :: ("ssr-props".toList ++
    '"' :: ' ' :: (name ++ '=' :: '"' :: (value ++ '"' :: '>' :: rest))))

/-- A document with this element and a title. -/
def documentText (title name value : List Char) : List Char :=
  "<!DOCTYPE html>\n<html><head><title>".toList ++
    (title ++ ("</title></head><body>".toList ++
      '<' :: tagText name value "</div></body></html>\n".toList))

/-- The elements of a written document in tree order, the last of which has attributes. -/
def placed (attributes : List (List Char × List Char)) : List Html.Placed :=
  [⟨0, 0, .bare "html"⟩, ⟨1, 1, .bare "head"⟩, ⟨2, 2, .bare "title"⟩, ⟨3, 1, .bare "body"⟩,
   ⟨4, 2, { name := "div", attributes, selfClosing := false }⟩]

/-- A document of which some elements have been read, when some of them are open. -/
def reading (attributes : List (List Char × List Char)) (count : Nat) (mode : Html.Mode)
    (opened : List Nat) : Html.Tree where
  placed := (placed attributes).take count
  nextId := count
  mode
  opened := opened.filterMap fun number =>
    ((placed attributes)[number]?).map fun element =>
    ⟨element.id, element.depth, element.tag.name, .html, false⟩
  head := if count < 2 then none else some ⟨1, 1, "head", .html, false⟩
  framesetAllowed := count < 4

theorem plain_html : Html.IsPlainName "html".toList := by decide

theorem plain_head : Html.IsPlainName "head".toList := by decide

theorem plain_title : Html.IsPlainName "title".toList := by decide

theorem plain_body : Html.IsPlainName "body".toList := by decide

theorem plain_div : Html.IsPlainName "div".toList := by decide

section Reading

variable (attributes : List (List Char × List Char))

/-- What comes before the element with the page opens it a place in the body. -/
theorem read_opening {title : List Char} (htitle : '<' ∉ title) (rest : List Char) :
    (reading attributes 0 .initial []).read
        ("<!DOCTYPE html>\n<html><head><title>".toList ++
          (title ++ ("</title></head><body>".toList ++ rest))) =
      (reading attributes 4 .inBody [3, 0]).read rest := by
  have hdoctype : (reading attributes 0 .initial []).accept .doctype =
      (reading attributes 0 .beforeHtml [], .markup) := rfl
  have hlineEnd : (reading attributes 0 .beforeHtml []).accept (.text true) =
      (reading attributes 0 .beforeHtml [], .markup) := rfl
  have hhtml : (reading attributes 0 .beforeHtml []).accept (.start (.bare "html")) =
      (reading attributes 1 .beforeHead [0], .markup) := rfl
  have hhead : (reading attributes 1 .beforeHead [0]).accept (.start (.bare "head")) =
      (reading attributes 2 .inHead [1, 0], .markup) := rfl
  have htitled : (reading attributes 2 .inHead [1, 0]).accept (.start (.bare "title")) =
      (reading attributes 3 .inHead [1, 0], .raw "title") := rfl
  have hheaded : (reading attributes 3 .inHead [1, 0]).accept (.stop "head") =
      (reading attributes 3 .afterHead [0], .markup) := rfl
  have hbody : (reading attributes 3 .afterHead [0]).accept (.start (.bare "body")) =
      (reading attributes 4 .inBody [3, 0], .markup) := rfl
  have htext : "<!DOCTYPE html>\n<html><head><title>".toList ++
      (title ++ ("</title></head><body>".toList ++ rest)) =
        "<!DOCTYPE html>".toList ++ '\n' :: '<' :: ("html".toList ++ '>' :: '<' ::
          ("head".toList ++ '>' :: '<' :: ("title".toList ++ '>' ::
            (title ++ '<' :: '/' :: ("title".toList ++ '>' :: '<' :: '/' ::
              ("head".toList ++ '>' :: '<' :: ("body".toList ++ '>' :: rest))))))) := by
    simp
  rw [htext, Html.Tree.read_doctype hdoctype, Html.Tree.read_lineEnd hlineEnd,
    Html.Tree.read_start plain_html hhtml, Html.Tree.read_start plain_head hhead,
    Html.Tree.read_raw plain_title htitled htitle, Html.Tree.read_stop plain_head hheaded,
    Html.Tree.read_start plain_body hbody]

theorem accept_page :
    (reading attributes 4 .inBody [3, 0]).accept
        (.start { name := "div", attributes, selfClosing := false }) =
      (reading attributes 5 .inBody [4, 3, 0], .markup) := rfl

theorem read_closing :
    (reading attributes 5 .inBody [4, 3, 0]).read "</div></body></html>\n".toList =
      reading attributes 5 .afterAfterBody [3, 0] := by
  have hdiv : (reading attributes 5 .inBody [4, 3, 0]).accept (.stop "div") =
      (reading attributes 5 .inBody [3, 0], .markup) := rfl
  have hbody : (reading attributes 5 .inBody [3, 0]).accept (.stop "body") =
      (reading attributes 5 .afterBody [3, 0], .markup) := rfl
  have hhtml : (reading attributes 5 .afterBody [3, 0]).accept (.stop "html") =
      (reading attributes 5 .afterAfterBody [3, 0], .markup) := rfl
  have hlineEnd : (reading attributes 5 .afterAfterBody [3, 0]).accept (.text true) =
      (reading attributes 5 .afterAfterBody [3, 0], .markup) := rfl
  have htext : "</div></body></html>\n".toList =
      '<' :: '/' :: ("div".toList ++ '>' :: '<' :: '/' ::
        ("body".toList ++ '>' :: '<' :: '/' :: ("html".toList ++ '>' :: ['\n']))) := by
    simp
  rw [htext, Html.Tree.read_stop plain_div hdiv, Html.Tree.read_stop plain_body hbody,
    Html.Tree.read_stop plain_html hhtml, Html.Tree.read_lastLineEnd hlineEnd]

end Reading

/-- The tag of the element has the two attributes that are written, and no more. -/
theorem tag?_tagText
    {name value : List Char} (hname : Html.IsPlainName name) (hid : name ≠ "id".toList)
    (hquote : '"' ∉ value) (rest : List Char) :
    Html.tag? (tagText name value rest) =
      some ({ name := "div"
              attributes := attributesOf name (Html.decodeValue value)
              selfClosing := false }, rest) := by
  have hidName : Html.IsPlainName "id".toList := by decide
  have hprops : Html.decodeValue "ssr-props".toList = "ssr-props".toList := by
    have hnull : '\x00' ∉ "ssr-props".toList := by decide
    exact decodeValue_escapeHtml hnull
  have hnew : List.lookup name [("id".toList, "ssr-props".toList)] = none := by
    have hdiffers : (name == "id".toList) = false := by simpa using hid
    rw [List.lookup_cons, hdiffers]
    rfl
  apply Html.tag?_written plain_div rfl
  -- Two attributes and the closing bracket take three steps, for which the text is long
  -- enough.
  obtain ⟨fuel, hfuel⟩ :
    ∃ fuel, (' ' :: ("id".toList ++ '=' :: '"' :: ("ssr-props".toList ++
      '"' :: ' ' :: (name ++ '=' :: '"' :: (value ++ '"' :: '>' :: rest))))).length + 1 =
        fuel + 1 + 1 + 1 := ⟨_, rfl⟩
  rw [hfuel, Html.tagRest?_attribute hidName (by decide) rfl, hprops,
    Html.tagRest?_attribute hname hquote hnew]
  rfl

theorem toList_toHtml (page : Page) (name : String) :
    (page.toHtml name).toList =
      documentText (escapeHtml page.title.toList) name.toList
        (escapeHtml page.payload) := by
  have hopen : "</title></head><body><div id=\"ssr-props\" ".toList =
      "</title></head><body>".toList ++ '<' :: ("div".toList ++ ' ' :: ("id".toList ++
        '=' :: '"' :: ("ssr-props".toList ++ '"' :: [' ']))) := by
    decide
  have hequals : "=\"".toList = '=' :: ['"'] := by decide
  have hclose : "\"></div></body></html>\n".toList =
      '"' :: '>' :: "</div></body></html>\n".toList := by
    decide
  delta toHtml documentText tagText
  rw [String.toList_ofList, hopen, hequals, hclose]
  simp only [List.append_assoc, List.cons_append, List.nil_append]

/-- Line ends are as they should be in a document, unless the title has others. -/
theorem normalizeLineEnds_documentText
    {name value : List Char} (hname : Html.IsPlainName name) (hvalue : '\r' ∉ value)
    (title : List Char) :
    Html.normalizeLineEnds (documentText title name value) =
      documentText (Html.normalizeLineEnds title) name value := by
  have hletters : '\r' ∉ name := fun hreturn => (hname.chars _ hreturn).ne_return rfl
  have hopening : '\r' ∉ "<!DOCTYPE html>\n<html><head><title>".toList := by decide
  have hbracket : "</title></head><body>".toList = '<' ::
      "/title></head><body>".toList := by
    decide
  have hrest : '\r' ∉ '<' :: ("/title></head><body>".toList ++
      '<' :: tagText name value "</div></body></html>\n".toList) := by
    simp [tagText, hletters, hvalue]
  delta documentText
  rw [Html.normalizeLineEnds_of_not_mem hopening, hbracket, List.cons_append,
    Html.normalizeLineEnds_append (by decide), Html.normalizeLineEnds_eq_self hrest]

theorem read_documentText
    {title name value : List Char} (htitle : '<' ∉ title) (hname : Html.IsPlainName name)
    (hid : name ≠ "id".toList) (hquote : '"' ∉ value) :
    ({} : Html.Tree).read (documentText title name value) =
      reading (attributesOf name (Html.decodeValue value)) 5 .afterAfterBody [3, 0] := by
  have htag := tag?_tagText hname hid hquote "</div></body></html>\n".toList
  have haccept := accept_page (attributesOf name (Html.decodeValue value))
  have hdiv :=
    Html.Tree.read_markup (fun foreign => Html.token?_start plain_div htag foreign)
      haccept (by simp only [List.length_cons, List.length_append]; omega)
  have hopening := read_opening (attributesOf name (Html.decodeValue value)) htitle
    ('<' :: tagText name value "</div></body></html>\n".toList)
  exact hopening.trans (hdiv.trans (read_closing _))

theorem elements_toHtml
    (page : Page) {name : String} (hname : Html.IsPlainName name.toList)
    (hid : name.toList ≠ "id".toList) :
    Html.elements (page.toHtml name).toList =
      (placed (attributesOf name.toList page.payload)).map Html.Placed.tag := by
  have htitle : '<' ∉ Html.normalizeLineEnds (escapeHtml page.title.toList) := by
    intro hbracket
    rcases Html.mem_normalizeLineEnds hbracket with hfeed | htext
    · contradiction
    · exact bracket_not_mem_escapeHtml _ htext
  have hquote := quote_not_mem_escapeHtml page.payload
  have hmark : Html.withoutOrderMark (page.toHtml name).toList =
      (page.toHtml name).toList := by
    rw [toList_toHtml]
    rfl
  have hnormal := normalizeLineEnds_documentText hname page.return_not_mem_escaped_payload
    (escapeHtml page.title.toList)
  rw [Html.elements, hmark, toList_toHtml, hnormal,
    read_documentText htitle hname hid hquote,
    decodeValue_escapeHtml page.null_not_mem_payload]
  rfl

theorem isSelectorName_of_plain {name : List Char} (hname : Html.IsPlainName name) :
    isSelectorName name = true := by
  obtain ⟨c, later, rfl, hlower⟩ := hname.begins
  have hletters : ∀ d : Char, d.isLower = true → beginsSelectorName d = true := by
    intro d hletter
    have halpha : d.isAlpha = true := Bool.or_eq_true_iff.2 (.inr hletter)
    simp [beginsSelectorName, halpha]
  have hall : (c :: later).all (fun d => beginsSelectorName d || d == '-' || d.isDigit) =
      true := by
    rw [List.all_eq_true]
    intro d hd
    rcases hname.chars d hd with hletter | hdigit | rfl
    · simp [hletters d hletter]
    · simp [hdigit]
    · rfl
  have hhyphen : c ≠ '-' := by
    rintro rfl
    exact absurd hlower (by decide)
  unfold isSelectorName
  simp [hall, hletters c hlower, hhyphen]

/-- The payload is the value of the attribute at the first element that has it. -/
theorem attributeIn?_toHtml
    (page : Page) {name : String} (hname : Html.IsPlainName name.toList)
    (hid : name.toList ≠ "id".toList) :
    attributeIn? name.toList (page.toHtml name).toList = some page.payload := by
  have hother : (name.toList == "id".toList) = false := by simpa using hid
  have hlookup : List.lookup name.toList (attributesOf name.toList page.payload) =
      some page.payload := by
    rw [attributesOf, List.lookup_cons, hother, List.lookup_cons, beq_self_eq_true]
  rw [attributeIn?, if_pos (isSelectorName_of_plain hname), page.elements_toHtml hname hid]
  simp only [placed, List.map_cons, List.map_nil, List.findSome?_cons, Html.Tag.bare,
    List.lookup_nil, hlookup]

end Page

/-- A page is read back from the document into which it was written, whatever its texts are
and whatever attribute holds it; only an attribute that the element has anyway would hide
it. -/
theorem ofHtml_toHtml
    (page : Page) {name : String} (hname : Html.IsPlainName name.toList)
    (hid : name ≠ "id") :
    Page.ofHtml (page.toHtml name) name = .ok page := by
  have hid' : name.toList ≠ "id".toList := fun heq => hid (String.toList_inj.1 heq)
  rw [Page.ofHtml, page.attributeIn?_toHtml hname hid']
  simp only [page.readAll_payload]

/-- A page whose texts look like markup, references and escapes. -/
def awkwardPage : Page where
  title := "</title>\r&amp;<div data-2='&quot;'>"
  body := "\"\\u0041\\\" \x01\x7f\t&lt;😀"
  endpoint := some
    { method := .get
      url := "/emoji/\x7bid\x7d"
      parameters := [⟨"id", .path, "", false, "\r\n", "'>"⟩] }

theorem ofHtml_toHtml_awkward :
    Html.IsPlainName "data-2".toList ∧ "data-2" ≠ "id" ∧
      Page.ofHtml (awkwardPage.toHtml "data-2") "data-2" = .ok awkwardPage := by
  have hname : Html.IsPlainName "data-2".toList := by decide
  have hid : "data-2" ≠ "id" := by decide
  exact ⟨hname, hid, ofHtml_toHtml awkwardPage hname hid⟩

end DocContract
