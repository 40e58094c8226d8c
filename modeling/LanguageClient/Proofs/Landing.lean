import LanguageClient.Performance
import LanguageClient.Proofs.Act
import LanguageClient.Proofs.Json.Lookup
import LanguageClient.Proofs.Uri.FileName

/-!
Where a jump lands. The host is told one place, the first one that the result tells of, or it is logged
that there is none; and what is asked at that place speaks of the one the server meant if the bytes of the
file's name are those of a text.
-/

namespace LanguageClient

namespace Location

/-- A place in a file, as servers speak of it: lines and columns count from zero. -/
structure Place where
  uri : Text
  line : Nat
  col : Nat

/-- What a request at the place says. -/
def Place.params (place : Place) : Json :=
  .object [("textDocument", .object [("uri", place.uri)]),
    ("position", .object [("line", .int place.line), ("character", .int place.col)])]

/-- The range starts at this line and column. -/
def StartsAt (range : Fields) (line col : Nat) : Prop :=
  ∃ start : Fields, range.get? "start" = some (.object start) ∧
    start.get? "line" = some (.int line) ∧ start.get? "character" = some (.int col)

/-- A location is where its range starts; a link leads to where the selection in its target starts. -/
inductive Tells (fields : Fields) (place : Place) : Prop
  | location {range : Fields} (named : fields.get? "uri" = some (.text place.uri))
    (ranged : fields.get? "range" = some (.object range)) (starts : StartsAt range place.line place.col)
  | link {range : Fields} (named : fields.get? "uri" = none ∧ fields.get? "targetUri" = some (.text place.uri))
    (ranged : fields.get? "range" = none ∧ fields.get? "targetSelectionRange" = some (.object range))
    (starts : StartsAt range place.line place.col)

/-- Results and what they lead to: one location, the first of several, or nothing. -/
inductive LeadsTo : Json → Option Place → Prop
  | nothing : LeadsTo .null none
  | empty : LeadsTo (.list []) none
  | one {fields : Fields} {place : Place} (tells : Tells fields place) : LeadsTo (.object fields) (some place)
  | first {fields : Fields} {place : Place} {others : List Json} (tells : Tells fields place) :
    LeadsTo (.list (.object fields :: others)) (some place)

variable {fields range : Fields} {place : Place} {line col : Nat}

lemma lookup_text {key : Text} {value default : Json} (h : fields.get? key = some value) (hv : value ≠ .null) :
    (Json.object fields).lookup [.text key] default = value := by
  have hleads : Json.Leads (.object fields) [.name key] value := .step (Json.selects_of_child? h) .here
  exact Json.lookup_of_leads hleads hv default

lemma lookup_missing {key : Text} {default : Json} (h : fields.get? key = none) :
    (Json.object fields).lookup [.text key] default = default := by
  have hnowhere : ∀ v, ¬ Json.Leads (.object fields) [.name key] v := by
    rintro v (_ | ⟨selects, rest⟩)
    cases h.symm.trans (Json.child?_of_selects selects)
  exact Json.lookup_eq_default (fun v hv => (hnowhere v hv).elim) default

lemma StartsAt.selection (h : StartsAt range line col) :
    Location.selection (.object range) = .ok (.int (line + 1), .int (col + 1)) := by
  obtain ⟨start, hstart, hline, hcol⟩ := h
  simp only [Location.selection, Json.lookup, Json.walk?, Json.child?, hstart, Option.bind_some, hline, hcol]
  rfl

lemma StartsAt.holds (h : StartsAt range line col) : (Json.object range).holds := by
  obtain ⟨start, hstart, -⟩ := h
  cases range with
  | nil => cases hstart
  | cons => rfl

lemma holds_text {t : Text} (h : t ≠ []) : (Json.text t).holds := by
  cases t with
  | nil => exact absurd rfl h
  | cons => rfl

lemma Tells.uri_eq (h : Tells fields place) (hne : place.uri ≠ []) :
    Location.uri (.object fields) = .text place.uri := by
  cases h with
  | location hu _ _ =>
    rw [Location.uri, lookup_text hu nofun, Json.orElse, if_pos (holds_text hne)]
  | link hu _ _ =>
    rw [Location.uri, lookup_missing hu.1, lookup_text hu.2 nofun]
    rfl

lemma Tells.selection_eq (h : Tells fields place) :
    selection (Location.range (.object fields)) = .ok (.int (place.line + 1), .int (place.col + 1)) := by
  cases h with
  | location _ hr hs =>
    rw [Location.range, lookup_text hr nofun, Json.orElse, if_pos hs.holds, hs.selection]
  | link _ hr hs =>
    rw [Location.range, lookup_missing hr.1, lookup_text hr.2 nofun]
    exact hs.selection

lemma LeadsTo.exists_fields {result : Json} (h : LeadsTo result (some place)) :
    ∃ fields, firstOf result = .object fields ∧ Tells fields place := by
  cases h with
  | one tells => exact ⟨_, rfl, tells⟩
  | first tells => exact ⟨_, rfl, tells⟩

end Location

namespace Uri

variable {p uri : Text}

/-- The bytes of a name are those of a text. -/
def IsText (p : Text) : Prop := ∃ t : Text, t.IsScalar ∧ Spells p t

lemma isText_of_isScalar (h : p.IsScalar) : IsText p := ⟨p, h, fileNameBytes_of_isScalar h⟩

lemma exists_bytes_of_ofPath (hp : Path.resolve p = p) (h : ofPath p = .ok uri) :
    ∃ bs, fileNameBytes p = .ok bs ∧ uri = fileUri bs := by
  have hnormal : Path.IsNormal p := hp ▸ Path.isNormal_resolve p
  rw [ofPath, hnormal.isAbsolute, hnormal.normalise_eq] at h
  cases hbs : fileNameBytes p with
  | error e => rw [hbs] at h; cases h
  | ok bs =>
    rw [hbs] at h
    exact ⟨bs, rfl, (Except.ok.inj h).symm⟩

lemma head?_escape {bs : Bytes} (hp : Path.IsNormal p) (h : fileNameBytes p = .ok bs) :
    (escape bs).head? = some Path.slash := by
  obtain ⟨rest, rfl⟩ := hp.exists_cons
  obtain ⟨tail, -, ⟨-, hs, -⟩ | rfl⟩ := exists_of_fileNameBytes_cons h
  · cases hs
  · rfl

lemma fileUri_injective {bs bs' : Bytes} (h : fileUri bs = fileUri bs') : bs = bs' := by
  have hescape := List.append_cancel_left h
  rw [← unescapeBytes_escape bs, hescape, unescapeBytes_escape]

end Uri

namespace Features

open Location

variable {p uri q : Text} {place : Place} {line col : Nat}

/-- The place is in the file of this path, and its line and column can be written. -/
structure IsIn (place : Place) (p : Text) : Prop where
  resolved : Path.resolve p = p
  uri : Uri.ofPath p = .ok place.uri
  line : (Json.int (place.line + 1)).isWritable
  col : (Json.int (place.col + 1)).isWritable

/-- A document asks at the place that was opened as the server spoke of it. -/
def AsksAt (place : Place) (doc : Json) : Prop :=
  Document.positionParams doc (.int (place.line + 1)) (.int (place.col + 1)) = .ok place.params

lemma asksAt_iff {doc : Json} (h : Document.uri doc = .ok uri) : AsksAt place doc ↔ uri = place.uri := by
  have hparams : Document.positionParams doc (.int (place.line + 1)) (.int (place.col + 1)) =
      .ok { place with uri }.params := by
    rw [Document.positionParams, Document.identifier, h, Json.shift, Json.shift, Int.add_neg_cancel_right,
      Int.add_neg_cancel_right]
    rfl
  rw [AsksAt, hparams, Place.params, Place.params]
  simp

lemma IsIn.exists_path (h : IsIn place p) : ∃ q, Uri.toPath place.uri = .ok q ∧ (p.IsScalar → q = p) ∧
    ∀ doc, Document.fileName doc = .ok (.text q) → (AsksAt place doc ↔ Uri.IsText p) := by
  have hnormal : Path.IsNormal p := h.resolved ▸ Path.isNormal_resolve p
  obtain ⟨bs, hbs, huri⟩ := Uri.exists_bytes_of_ofPath h.resolved h.uri
  refine ⟨Utf8.decodeLossy bs, ?_, fun hp => ?_, fun doc hdoc => ?_⟩
  · rw [huri, Uri.toPath_fileUri (Uri.head?_escape hnormal hbs)]
  · rw [Uri.fileNameBytes_of_isScalar hp] at hbs
    rw [← Except.ok.inj hbs, Uri.decodeLossy_encodeLossless hp]
  · have hq : (Path.resolve (Utf8.decodeLossy bs)).IsScalar :=
      Uri.isScalar_of_mem (Utf8.isScalar_decodeLossy bs) fun _ => Path.mem_resolve
    have hdocument : Document.uri doc =
        .ok (Uri.fileUri (Utf8.encodeLossless (Path.resolve (Utf8.decodeLossy bs)))) := by
      have hresolved := Path.isNormal_resolve (Utf8.decodeLossy bs)
      rw [Uri.document_uri_eq hdoc, Uri.ofPath_of_isScalar hresolved.isAbsolute hq, hresolved.normalise_eq]
    rw [asksAt_iff hdocument, huri]
    constructor
    · intro hsame
      exact ⟨_, hq, hbs.trans (congrArg Except.ok (Uri.fileUri_injective hsame).symm)⟩
    · rintro ⟨t, ht, hspells⟩
      obtain rfl : bs = Utf8.encodeLossless t := Except.ok.inj (hbs.symm.trans hspells)
      rw [Uri.decodeLossy_encodeLossless ht, Uri.resolve_eq_of_spells h.resolved hspells]

/-! The answer to a request for a place -/

variable {w : World} {id : SessionId} {response result : Json} {method : Text}

lemma IsIn.uri_ne_nil (h : IsIn place p) : place.uri ≠ [] := by
  obtain ⟨bs, -, huri⟩ := Uri.exists_bytes_of_ofPath h.resolved h.uri
  rw [huri]
  exact nofun

lemma ends_onGoTo_of_nothing (hfine : Message.failure? response = .ok none)
    (hresult : response.field "result" = .ok result) (h : LeadsTo result none) :
    Act.Ends (onGoTo method id response) w fun r v => r = .ok () ∧
      v = w.log .features (.int Level.info) ((w.session id).tag ++ ("No " ++ method ++ " found")) none := by
  have hfirst : firstOf result = .null := by cases h <;> rfl
  refine Act.ends_ok_bind hfine (Act.ends_ok_bind hresult ?_)
  rw [hfirst]
  exact ⟨rfl, rfl⟩

lemma ends_onGoTo_of_place (hfine : Message.failure? response = .ok none)
    (hresult : response.field "result" = .ok result) (h : LeadsTo result (some place)) (hp : IsIn place p)
    (hq : Uri.toPath place.uri = .ok q) :
    Act.Ends (onGoTo method id response) w fun r v => r = .ok () ∧
      v = (w.record (.noted id .asking)).record (.opened q (.int (place.line + 1)) (.int (place.col + 1))) := by
  obtain ⟨fields, hfirst, htells⟩ := h.exists_fields
  have huri := htells.uri_eq hp.uri_ne_nil
  refine Act.ends_ok_bind hfine (Act.ends_ok_bind hresult ?_)
  rw [hfirst]
  dsimp only
  rw [huri, holds_text hp.uri_ne_nil]
  refine Act.ends_ok_bind htells.selection_eq (Act.ends_ok_bind hq ?_)
  exact Act.ends_ok_bind (if_pos hp.line) (Act.ends_ok_bind (if_pos hp.col) ⟨rfl, rfl⟩)

/-- Where the answer to a request for a place lands. If it leads to nothing, this is logged and nothing else
happens. If it leads to a place in the file of a path, nothing happens but that the host is told to open the
path that the URI is read as, at the line and the column, counted from one: it is that very path if this has no
surrogates. And what is asked in a document of the opened path at this line and column speaks of the URI and
the position that the server told of if and only if the bytes of the file's name are those of a text. -/
theorem ends_goTo_of_leadsTo {call : Caller} {ticket : Nat} (hfine : Message.failure? response = .ok none)
    (hresult : response.field "result" = .ok result) :
    (LeadsTo result none → Act.Ends (performCall call (.answer (.goTo method) id ticket response)) w fun r v =>
      r = .ok () ∧
        v = w.log .features (.int Level.info) ((w.session id).tag ++ ("No " ++ method ++ " found")) none) ∧
    ∀ place p, LeadsTo result (some place) → IsIn place p → ∃ q,
      Act.Ends (performCall call (.answer (.goTo method) id ticket response)) w (fun r v => r = .ok () ∧
        v = (w.record (.noted id .asking)).record (.opened q (.int (place.line + 1)) (.int (place.col + 1)))) ∧
      (p.IsScalar → q = p) ∧
      ∀ doc, Document.fileName doc = .ok (.text q) → (AsksAt place doc ↔ Uri.IsText p) := by
  refine ⟨fun h => ?_, fun place p h hp => ?_⟩
  · exact Act.ends_getSession_bind (ends_onGoTo_of_nothing hfine hresult h)
  · obtain ⟨q, hq, hscalar, hasks⟩ := hp.exists_path
    exact ⟨q, Act.ends_getSession_bind (ends_onGoTo_of_place hfine hresult h hp hq), hscalar, hasks⟩

/-- A link into a file whose name has a blank. -/
theorem ends_goTo_of_leadsTo_link :
    let path : Text := "/tmp/a b.py"
    let start : Json := .object [("line", .int 3), ("character", .int 7)]
    let link : Json := .object [("targetUri", "file:///tmp/a%20b.py"),
      ("targetSelectionRange", .object [("start", start), ("end", start)])]
    let response : Json := .object [("id", .int 1), ("result", .list [link, .null])]
    Act.Ends (performCall (callWithin 0) (.answer (.goTo "definition") 0 1 response)) {} (fun r v =>
      r = .ok () ∧ v.events = [.opened path (.int 4) (.int 8), .noted 0 .asking]) ∧
    AsksAt ⟨"file:///tmp/a%20b.py", 3, 7⟩ (.object [("filename", path)]) := by
  intro path start link response
  have hpath : path.IsScalar := by decide
  have hleads : LeadsTo (.list [link, .null]) (some ⟨"file:///tmp/a%20b.py", 3, 7⟩) :=
    .first (.link ⟨rfl, rfl⟩ ⟨rfl, rfl⟩ ⟨_, rfl, rfl, rfl⟩)
  have hin : IsIn ⟨"file:///tmp/a%20b.py", 3, 7⟩ path :=
    ⟨by decide +kernel, rfl, by decide +kernel, by decide +kernel⟩
  have hfine : Message.failure? response = .ok none := rfl
  obtain ⟨q, hends, hq, hasks⟩ := (ends_goTo_of_leadsTo hfine rfl).2 _ path hleads hin
  obtain rfl := hq hpath
  refine ⟨hends.mono fun r v h => ⟨h.1, ?_⟩, (hasks _ rfl).mpr (Uri.isText_of_isScalar hpath)⟩
  rw [h.2]
  rfl

lemma ofPath_byte : Uri.ofPath [Path.slash, ⟨0xDCE9, by decide⟩] = .ok "file:///%E9" := by
  unfold Uri.ofPath
  rfl

lemma isIn_byte : IsIn ⟨"file:///%E9", 0, 0⟩ [Path.slash, ⟨0xDCE9, by decide⟩] :=
  ⟨by decide +kernel, ofPath_byte, by decide +kernel, by decide +kernel⟩

/-- A file whose name is one byte that begins no code point: what is opened has another name, and what is asked
there speaks of another file. -/
theorem not_asksAt_of_byte :
    let place : Place := ⟨"file:///%E9", 0, 0⟩
    let start : Json := .object [("line", .int 0), ("character", .int 0)]
    let location : Json := .object [("uri", "file:///%E9"), ("range", .object [("start", start), ("end", start)])]
    let response : Json := .object [("id", .int 1), ("result", location)]
    LeadsTo location (some place) ∧ IsIn place [Path.slash, ⟨0xDCE9, by decide⟩] ∧
    Act.Ends (performCall (callWithin 0) (.answer (.goTo "definition") 0 1 response)) {} (fun r v =>
      r = .ok () ∧ v.events = [.opened [Path.slash, .replacement] (.int 1) (.int 1), .noted 0 .asking]) ∧
    ¬ AsksAt place (.object [("filename", .text [Path.slash, .replacement])]) := by
  intro place start location response
  have hleads : LeadsTo location (some place) := .one (.location rfl rfl ⟨_, rfl, rfl, rfl⟩)
  have hends : Act.Ends (onGoTo "definition" 0 response) {} fun r v => r = .ok () ∧ v =
      (World.record {} (.noted 0 .asking)).record (.opened [Path.slash, .replacement] (.int 1) (.int 1)) :=
    ends_onGoTo_of_place rfl rfl hleads isIn_byte rfl
  refine ⟨hleads, isIn_byte, Act.ends_getSession_bind (hends.mono fun r v h => ⟨h.1, ?_⟩), ?_⟩
  · rw [h.2]
    rfl
  · have huri : Document.uri (.object [("filename", .text [Path.slash, .replacement])]) =
        .ok "file:///%EF%BF%BD" := rfl
    rw [asksAt_iff huri]
    decide +kernel

end Features

end LanguageClient
