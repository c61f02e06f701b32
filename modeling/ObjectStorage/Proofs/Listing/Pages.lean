import ObjectStorage.Proofs.Listing.Server

/-!
# Pages of listings

A page that was asked for holds the next names, whichever way the server writes it down, and the
listing goes on after the last of them.
-/

namespace ObjectStorage.Listing

variable {kind : Kind} {σ : Type}

/-! ## The names after a marker -/

section

variable {names before after : List String}

theorem precedes_trans {first second third : String} (h : Precedes first second)
    (hsecond : Precedes second third) : Precedes first third :=
  List.lt_trans h hsecond

theorem not_precedes_self (name : String) : ¬Precedes name name := List.lt_irrefl _

private theorem empty_precedes {name : String} (h : name ≠ "") : Precedes "" name := by
  unfold Precedes
  cases hbytes : Utf8.ofText name with
  | nil =>
      have := Utf8.decodeLossy_ofText name
      rw [hbytes] at this
      exact absurd this.symm h
  | cons byte rest => exact List.nil_lt_cons byte rest

private theorem filter_after (sorted : (before ++ after).Pairwise Precedes)
    (nonempty : "" ∉ before ++ after) :
    (before ++ after).filter (fun name => Precedes (before.getLast?.getD "") name) = after := by
  rcases before.eq_nil_or_concat with rfl | ⟨front, last, rfl⟩
  · refine List.filter_eq_self.mpr fun name hname => decide_eq_true ?_
    refine empty_precedes ?_
    rintro rfl
    exact nonempty hname
  · rw [List.concat_eq_append] at sorted nonempty ⊢
    obtain ⟨first, -, across⟩ := List.pairwise_append.mp sorted
    have passed : (front ++ [last]).filter (fun name => Precedes last name) = [] := by
      refine List.filter_eq_nil_iff.mpr fun name hname => ?_
      rw [decide_eq_true_eq]
      rcases List.mem_append.mp hname with hname | hname
      · have earlier := (List.pairwise_append.mp first).2.2 name hname last (by simp)
        exact fun later => not_precedes_self last (precedes_trans later earlier)
      · rw [List.mem_singleton.mp hname]
        exact not_precedes_self last
    have ahead : after.filter (fun name => Precedes last name) = after := by
      refine List.filter_eq_self.mpr fun name hname => decide_eq_true ?_
      exact across last (by simp) name hname
    rw [List.getLast?_concat, Option.getD_some, List.filter_append, passed, ahead, List.nil_append]

theorem page_after (catalog : IsCatalog names) {beginning : String} {limit : Option Nat}
    {detailed : Bool} (h : matching names beginning = before ++ after) (cap : Nat) :
    let question : Question := ⟨before.getLast?.getD "", beginning, limit, detailed⟩
    question.page names cap = after.take (question.size cap) := by
  have sorted : (before ++ after).Pairwise Precedes := h ▸ catalog.sorted.filter _
  have nonempty : "" ∉ before ++ after := by
    rw [← h]
    exact fun hmem => catalog.nonempty (List.mem_filter.mp hmem).1
  simp only [Question.page, h, filter_after sorted nonempty]

end

/-! ## The content of answers -/

section

variable {page : List String}

private theorem split_lines (h : ∀ name ∈ page, '\n' ∉ name.toList) :
    Text.split '\n' (lines page) = page.map String.toList ++ [[]] := by
  induction page with
  | nil => rfl
  | cons name rest ih =>
      have first := h name List.mem_cons_self
      have others := ih fun other hother => h other (List.mem_cons_of_mem _ hother)
      rw [lines, List.flatMap_cons, List.append_assoc, List.singleton_append,
        Text.split_append_separator first, ← lines, others]
      rfl

theorem filter_names (h : "" ∉ page) :
    (page.map String.toList).filter (fun line => !line.isEmpty) = page.map String.toList := by
  refine List.filter_eq_self.mpr fun line hline => ?_
  obtain ⟨name, hname, rfl⟩ := List.mem_map.mp hline
  have : name ≠ "" := fun hempty => h (hempty ▸ hname)
  simpa using this

private theorem namesOf_lines (nonempty : "" ∉ page) (oneLine : ∀ name ∈ page, '\n' ∉ name.toList) :
    namesOf (Utf8.encode (lines page)) = page := by
  have text : Utf8.encode (lines page) = Utf8.ofText (String.ofList (lines page)) := by
    simp [Utf8.ofText]
  rw [namesOf, text, Utf8.decodeLossy_ofText, String.toList_ofList, split_lines oneLine,
    List.filter_append, filter_names nonempty]
  simp [Function.comp_def]

private theorem namesOf_join (nonempty : "" ∉ page) (oneLine : ∀ name ∈ page, '\n' ∉ name.toList) :
    namesOf (Utf8.encode (Text.join '\n' (page.map String.toList))) = page := by
  have text : Utf8.encode (Text.join '\n' (page.map String.toList)) =
      Utf8.ofText (String.ofList (Text.join '\n' (page.map String.toList))) := by
    simp [Utf8.ofText]
  rw [namesOf, text, Utf8.decodeLossy_ofText, String.toList_ofList]
  cases page with
  | nil => rfl
  | cons name rest =>
      rw [Text.split_join (by simp) (by simpa using oneLine), filter_names nonempty]
      simp [Function.comp_def]

theorem names_of_details {position : Nat} {records : List (Record kind)}
    {details : List (String × Details kind)} (h : detailsFrom position records = .ok details) :
    details.map Prod.fst = records.map Record.name := by
  induction records generalizing position details with
  | nil =>
      cases h
      rfl
  | cons record rest ih =>
      obtain ⟨first, -, h⟩ := ok_of_bind h
      obtain ⟨others, hothers, h⟩ := ok_of_bind h
      cases h
      simp [ih hothers]

theorem pageContent_ok (fields : Http.Fields) (body : Body) :
    pageContent ⟨.ok, fields, body⟩ = body.read := rfl

theorem pageContent_noContent {fields : Http.Fields} {body : Body} (drained : body.drain = .ok ()) :
    pageContent ⟨.noContent, fields, body⟩ = .ok [] := by
  simp [pageContent, drained, bind, Except.bind, pure, Except.pure]

private theorem plain_content {scope : Scope kind} {response : Http.Response} (nonempty : "" ∉ page)
    (oneLine : ∀ name ∈ page, '\n' ∉ name.toList) (answer : IsAnswer scope false page response) :
    ∃ content, pageContent response = .ok content ∧ namesOf content = page := by
  cases answer with
  | none drained => exact ⟨[], pageContent_noContent drained, rfl⟩
  | lines read => exact ⟨_, (pageContent_ok _ _).trans read, namesOf_lines nonempty oneLine⟩
  | unended read => exact ⟨_, (pageContent_ok _ _).trans read, namesOf_join nonempty oneLine⟩

private theorem detailed_content {scope : Scope kind} {response : Http.Response}
    (answer : IsAnswer scope true page response) :
    ∃ content records details, pageContent response = .ok content ∧
      recordsOf scope content = .ok records ∧ detailsFrom 0 records = .ok details ∧
      records.map Record.name = page := by
  cases answer with
  | none drained => exact ⟨[], [], [], pageContent_noContent drained, rfl, rfl, rfl⟩
  | @records fields body content json records details read parsed listed readable =>
      have hcontent : content.isEmpty = false := by
        cases content with
        | nil => exact nomatch parsed
        | cons byte rest => rfl
      refine ⟨content, records, details, (pageContent_ok _ _).trans read, ?_, readable, rfl⟩
      simp [recordsOf, hcontent, parsed, listed]

private theorem accept_answer {scope : Scope kind} {detailed : Bool} {response : Http.Response}
    (answer : IsAnswer scope detailed page response) (listing : Listing kind) (marker : String)
    (limit : Option UInt64) (url : Url) :
    (listing.request marker limit detailed).accept url response = .ok response := by
  have status : response.status = .ok ∨ response.status = .noContent := by
    cases answer with
    | none => exact .inr rfl
    | lines => exact .inl rfl
    | unended => exact .inl rfl
    | records => exact .inl rfl
  have expected : (listing.request marker limit detailed).isExpected response.status = true := by
    rcases status with h | h <;> rw [h] <;> rfl
  rw [Request.accept, expected]
  rfl

end

/-! ## One page -/

def goneTo (listing : Listing kind) (position : Position) : Listing kind :=
  { listing with position := position }

section

variable {transport : Transport σ} {names : List String} {listing : Listing kind}
  {marker : String} {limit : Option UInt64} {detailed : Bool} {state next : σ}
  {message : Http.Request} {error : Error}

theorem fetch_refused (refused : listing.pageMessage marker limit detailed = .error error) :
    fetch transport limit detailed (listing.goneTo (.after marker), state) =
      .error error (listing.goneTo (.after marker), state) := by
  have executed : ((listing.goneTo (.after marker)).request marker limit detailed).execute transport
      listing.site.endpoint state = .error error state :=
    Request.execute_of_unwritten refused
  refine (Remote.bind_of_ok rfl).trans ?_
  exact Remote.bind_of_error (Remote.onSecond_of_error _ executed)

theorem fetch_answered {response : Http.Response} {pulled : Nat} {content : Bytes}
    {page : List String} (written : listing.pageMessage marker limit detailed = .ok message)
    (sent : transport.send message state = (⟨.ok response, pulled⟩, next))
    (answer : IsAnswer listing.scope detailed page response)
    (read : pageContent response = .ok content) :
    fetch transport limit detailed (listing.goneTo (.after marker), state) =
      .ok (some content) (listing.goneTo (.after marker), next) := by
  obtain ⟨url, -, executed⟩ := Request.execute_of_written written sent
  have accepted : ((listing.goneTo (.after marker)).request marker limit detailed).execute transport
      listing.site.endpoint state = .ok response next := by
    refine executed.trans ?_
    simp only [Except.bind, accept_answer answer]
  refine (Remote.bind_of_ok rfl).trans ?_
  refine (Remote.bind_of_ok (Remote.onSecond_of_ok _ accepted)).trans ?_
  exact Remote.bind_of_ok (Remote.ofExcept_of_ok read)

private theorem nextNames_answered {response : Http.Response} {pulled : Nat} {page : List String}
    (written : listing.pageMessage marker limit false = .ok message)
    (sent : transport.send message state = (⟨.ok response, pulled⟩, next))
    (answer : IsAnswer listing.scope false page response) (nonempty : "" ∉ page)
    (oneLine : ∀ name ∈ page, '\n' ∉ name.toList) :
    nextNames transport limit (listing.goneTo (.after marker), state) =
      .ok page (listing.goneTo (positionAfter page), next) := by
  obtain ⟨content, read, hnames⟩ := plain_content nonempty oneLine answer
  refine (Remote.bind_of_ok (fetch_answered written sent answer read)).trans ?_
  simp only [hnames]
  rfl

private theorem nextRecords_answered {response : Http.Response} {pulled : Nat} {page : List String}
    (written : listing.pageMessage marker limit true = .ok message)
    (sent : transport.send message state = (⟨.ok response, pulled⟩, next))
    (answer : IsAnswer listing.scope true page response) :
    ∃ items, items.map Prod.fst = page ∧
      nextRecords transport limit (listing.goneTo (.after marker), state) =
        .ok items (listing.goneTo (positionAfter page), next) := by
  obtain ⟨content, records, details, read, hrecords, hdetails, rfl⟩ := detailed_content answer
  refine ⟨details, names_of_details hdetails, ?_⟩
  refine (Remote.bind_of_ok (fetch_answered written sent answer read)).trans ?_
  refine (Remote.bind_of_ok rfl).trans ?_
  refine (Remote.bind_of_ok (Remote.ofExcept_of_ok hrecords)).trans ?_
  exact Remote.bind_of_ok (Remote.ofExcept_of_ok hdetails)

end

/-- What an operation does that goes on by a page of names. -/
structure IsPaging {α : Type} (transport : Transport σ) (names : List String)
    (listing : Listing kind) (limit : Option UInt64) (detailed : Bool) (denoted : α → Handle kind)
    (page : Remote (Listing kind × σ) (List α)) : Prop where
  exhausted : ∀ state, page (listing.goneTo .exhausted, state) =
    .ok [] (listing.goneTo .exhausted, state)
  refused : ∀ marker state error, listing.pageMessage marker limit detailed = .error error →
    page (listing.goneTo (.after marker), state) =
      .error error (listing.goneTo (.after marker), state)
  answered : ∀ marker state message, listing.pageMessage marker limit detailed = .ok message →
    ∃ cap pulled response next items,
      let question : Question :=
        ⟨marker, listing.beginning, limit.map UInt64.toNat, detailed⟩
      1 ≤ cap ∧ transport.send message state = (⟨.ok response, pulled⟩, next) ∧
        IsAnswer listing.scope detailed (question.page names cap) response ∧
        items.map denoted = (question.page names cap).map listing.handle ∧
        page (listing.goneTo (.after marker), state) =
          .ok items (listing.goneTo (positionAfter (question.page names cap)), next)

section

variable {transport : Transport σ} {names : List String} {listing : Listing kind}

theorem mem_of_mem_page {question : Question} {cap : Nat} {name : String}
    (h : name ∈ question.page names cap) : name ∈ names :=
  (List.mem_filter.mp (List.mem_filter.mp (List.mem_of_mem_take h)).1).1

theorem isPaging_nextPage (catalog : IsCatalog names) (serves : Serves transport names listing)
    (free : SetsNoParameter listing) (limit : Option UInt64) :
    IsPaging transport names listing limit false id (nextPage transport limit) where
  exhausted _ := rfl
  refused marker state error refused := by
    refine (Remote.bind_of_ok rfl).trans ?_
    exact Remote.bind_of_error (Remote.bind_of_error (fetch_refused refused))
  answered marker state message written := by
    obtain ⟨cap, pulled, response, next, hcap, sent, answer⟩ := serves marker limit false message
      state written
    rw [question_of_pageMessage free written] at answer
    refine ⟨cap, pulled, response, next, _, hcap, sent, answer, List.map_id _, ?_⟩
    refine (Remote.bind_of_ok rfl).trans
      (Remote.bind_of_ok (nextNames_answered written sent answer ?_ ?_))
    · exact fun hmem => catalog.nonempty (mem_of_mem_page hmem)
    · exact fun name hname => catalog.oneLine name (mem_of_mem_page hname)

theorem isPaging_nextPageDetailed (serves : Serves transport names listing)
    (free : SetsNoParameter listing) (limit : Option UInt64) :
    IsPaging transport names listing limit true Prod.fst (nextPageDetailed transport limit) where
  exhausted _ := rfl
  refused marker state error refused := by
    refine (Remote.bind_of_ok rfl).trans ?_
    exact Remote.bind_of_error (Remote.bind_of_error (fetch_refused refused))
  answered marker state message written := by
    obtain ⟨cap, pulled, response, next, hcap, sent, answer⟩ := serves marker limit true message
      state written
    rw [question_of_pageMessage free written] at answer
    obtain ⟨items, hitems, run⟩ := nextRecords_answered written sent answer
    refine ⟨cap, pulled, response, next, items.map fun item => (listing.handle item.1, item.2), hcap,
      sent, answer, ?_, ?_⟩
    · rw [← hitems]
      simp
    · exact (Remote.bind_of_ok rfl).trans (Remote.bind_of_ok run)

end

end ObjectStorage.Listing
