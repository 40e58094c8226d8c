import LanguageClient.Performance
import LanguageClient.Proofs.Apart.Lifecycle

/-!
What the client does when it is called back, and what features do with a session, regards that session
alone.
-/

namespace LanguageClient

open Act

namespace Features

lemma local_say (text : Text) : Local fun id => say id text :=
  local_getSession_bind fun _ _ => local_log _ _ _

lemma local_sayQuietly (text : Text) : Local fun id => sayQuietly id text :=
  local_getSession_bind fun _ _ => local_log _ _ _

lemma local_onLogMessage (params : Json) : Local fun id => onLogMessage id params :=
  .ite (fun _ => local_say _) fun _ => local_pure ()

lemma local_onReady : Local fun id => onReady id := by
  refine (local_say _).bind fun _ => local_getSession_bind fun s _ => ?_
  have hask : Local fun id => askHost id (.triggered s.language s.filePatterns s.triggers) := local_askHost rfl
  have hrest : Local fun id => (do
      let characters := s.triggers
      if characters.holds then
        if s.isVerbose then
          let shown ← Act.check (joined characters)
          log .client Level.info
            (s.tag ++ "Adding triggers for '" ++ s.language.display ++ "' - " ++ shown)
        askHost id (.triggered s.language s.filePatterns characters)) := by
    refine .ite (fun _ => .ite (fun _ => ?_) fun _ => hask) fun _ => local_pure ()
    exact local_check_bind fun shown _ => (local_log _ _ _).bind fun _ => hask
  exact .ite (fun _ => (Session.local_pushNotification _ _).bind fun _ => hrest) fun _ => hrest

lemma local_offer (items : Json) : Local fun id => offer id items := by
  refine .ite (fun _ => local_getSession_bind fun s _ => ?_) fun _ => local_pure ()
  exact local_check_bind fun entries _ => local_askHost rfl

lemma local_onCompletion (response : Json) : Local fun id => onCompletion id response := by
  refine local_check_bind fun failure _ => ?_
  cases failure with
  | some f => exact local_sayQuietly _
  | none =>
    refine local_check_bind fun result _ => ?_
    cases result with
    | object list => exact .ite (fun _ => local_sayQuietly _) fun _ => local_offer _
    | _ => exact local_offer _

lemma local_onGoTo (method : Text) (response : Json) : Local fun id => onGoTo method id response := by
  refine local_check_bind fun failure _ => ?_
  cases failure with
  | some f => exact local_say _
  | none =>
    refine local_check_bind fun result _ => .ite (fun _ => local_say _) fun _ => ?_
    refine local_check_bind fun selection _ => local_check_bind fun path _ => ?_
    exact local_check_bind fun line _ => local_check_bind fun col _ => local_askHost rfl

lemma local_completeWith (doc line col : Json) : Local fun id => completeWith doc line col id := by
  refine local_check_bind fun params _ => (Session.local_changeDocument params).bind fun _ => ?_
  refine local_getSession_bind fun s _ => local_check_bind fun supported _ => ?_
  have hsay : Local fun id => sayQuietly id (Failure.unsupported "Completion").message := local_sayQuietly _
  cases supported with
  | null => exact local_pure ()
  | bool b =>
    cases b with
    | false => exact hsay
    | true =>
      refine local_check_bind fun params _ => Session.local_complete params fun h hh => ?_
      obtain rfl := Option.some.inj hh
      rfl
  | _ => exact hsay

lemma local_goToWith (doc line col : Json) (implementation : Bool) :
    Local fun id => goToWith doc line col implementation id := by
  refine local_getSession_bind fun s _ => ?_
  cases s.capabilities with
  | none => exact local_pure ()
  | some capabilities =>
    refine local_check_bind fun method _ => ?_
    cases method with
    | none => exact local_say _
    | some method =>
      refine local_check_bind fun params _ => Session.local_goTo _ params fun h hh => ?_
      obtain rfl := Option.some.inj hh
      rfl

end Features

lemma local_performListener (call : Caller) {l : Listener} (hl : l.isOwn)
    (mark : SessionId → Json → Event) (params : Json) :
    Local fun id => performListener call id (mark id) params l := by
  cases l with
  | host callback => cases hl
  | logMessage => exact Features.local_onLogMessage params
  | ready => exact Features.local_onReady

lemma callsLocally_performCall {call : Caller} (hc : CallsLocally call) : CallsLocally (performCall call) where
  answer {h} hh ticket response := by
    refine local_getSession_bind fun s _ => ?_
    cases h with
    | host callback => cases hh
    | opening callback =>
      obtain rfl := Option.isNone_iff_eq_none.mp hh
      exact Session.local_openingAnswered hc ticket response
    | completion => exact Features.local_onCompletion response
    | goTo method => exact Features.local_onGoTo method response
  event hl args := local_getSession_bind fun s _ =>
    local_performListener call hl (fun id label => .happened id label s.title args) .null
  message hl params := local_getSession_bind fun s _ =>
    local_performListener call hl (fun id label => .received id label s.title params) params

lemma callsLocally_callWithin (depth : Nat) : CallsLocally (callWithin depth) := by
  induction depth with
  | zero =>
    exact ⟨fun _ _ _ => (local_note _).bind fun _ => local_throw _,
      fun _ _ => (local_note _).bind fun _ => local_throw _,
      fun _ _ => (local_note _).bind fun _ => local_throw _⟩
  | succ depth ih => exact callsLocally_performCall ih

/-! Links -/

lemma local_updateLink (f : Link → Link) : Local fun id => updateLink id f :=
  local_updateSession fun _ => .of_own rfl rfl fun ht => ht

lemma local_writeMessages (messages : List Json) : Local fun id => writeMessages id messages := by
  induction messages with
  | nil => exact local_pure ()
  | cons m rest ih => exact local_check_bind fun bytes _ => (local_updateLink _).bind fun _ => ih

lemma local_performLink (a : LinkAction) : Local fun id => performLink id a := by
  cases a with
  | write messages => exact local_writeMessages messages
  | writeBytes data => exact local_check_bind fun bytes _ => local_updateLink _
  | _ => exact local_updateLink _

end LanguageClient
