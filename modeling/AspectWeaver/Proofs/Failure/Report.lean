import AspectWeaver.ErrorInfo

/-!
# A report tells the whole story of a failure

The story of a failure is told from outside to inside (`Failure.Tells`): the contexts, the last one first, then the
root, then the errors below the root, each the direct cause of the one before (`CausedError.Leads`). A failure has
exactly one story, and both ways to make a report keep it: the walk from cause to cause takes as many steps as there
are causes (`CausedError.Leads.walk_eq`), and the report of a failure has the same texts. A cause shows in a story by
its message alone, so a layered error stands for every error whose causes have these messages. The top is
`ErrorInfo.ofFailure_tells`.
-/

set_option autoImplicit false

namespace AspectWeaver

/-! ## Causes -/

namespace CausedError

/-- What lies below an error: its direct cause, the direct cause of that, and so on to one that has no cause. -/
inductive Leads : CausedError → List CausedError → Prop where
  | nowhere {error : CausedError} : error.source? = none → Leads error []
  | cause {error next : CausedError} {rest : List CausedError} :
      error.source? = some next → Leads next rest → Leads error (next :: rest)

/-- The direct cause comes first among the causes, and below it the walk has one step less to go. -/
theorem source?_spec : ∀ error : CausedError,
    match error.source? with
    | none => error.causes = []
    | some next => error.causes = next.message :: next.causes ∧ ErrorInfo.depth error = ErrorInfo.depth next + 1
  | .weave _ => rfl
  | .layered _ _ [] none => rfl
  | .layered _ _ [] (some _) => ⟨rfl, rfl⟩
  | .layered _ _ (_ :: _) _ => ⟨rfl, rfl⟩

/-- From each error there is a way down to one that has no cause. -/
theorem exists_leads (error : CausedError) : ∃ errors, error.Leads errors := by
  induction hdepth : ErrorInfo.depth error using Nat.strongRecOn generalizing error with
  | ind steps ih =>
    have hspec := error.source?_spec
    cases hnext : error.source? with
    | none => exact ⟨[], .nowhere hnext⟩
    | some next =>
      rw [hnext] at hspec
      have hshorter : ErrorInfo.depth next < steps := by omega
      obtain ⟨errors, herrors⟩ := ih _ hshorter next rfl
      exact ⟨next :: errors, .cause hnext herrors⟩

namespace Leads

variable {error : CausedError} {errors : List CausedError}

/-- The causes of an error are the messages of what lies below it. -/
theorem causes_eq (h : error.Leads errors) : error.causes = errors.map message := by
  induction h with
  | @nowhere error hnone =>
    have hspec := error.source?_spec
    rw [hnone] at hspec
    exact hspec
  | @cause error next rest hnext _ ih =>
    have hspec := error.source?_spec
    rw [hnext] at hspec
    rw [hspec.1, ih, List.map_cons]

/-- The walk ends at the last cause and not before. -/
theorem walk_eq (h : error.Leads errors) : ErrorInfo.walk (ErrorInfo.depth error) error = errors.map message := by
  induction h with
  | @nowhere error hnone =>
    cases ErrorInfo.depth error with
    | zero => rfl
    | succ steps => rw [ErrorInfo.walk, hnone, List.map_nil]
  | @cause error next rest hnext _ ih =>
    have hspec := error.source?_spec
    rw [hnext] at hspec
    rw [hspec.2, ErrorInfo.walk, hnext, List.map_cons, ← ih]

end Leads

end CausedError

/-! ## Stories -/

namespace Failure

/-- How a failure is told, from outside to inside: a bare message by itself, an error by its message and those of the
errors below it, and a context by its message before what it is wrapped around. -/
inductive Tells : Failure → List String → Prop where
  | text (message : String) : Tells (ofText message) [message]
  | error {error : CausedError} {errors : List CausedError} :
      error.Leads errors → Tells (ofError error) (error.message :: errors.map CausedError.message)
  | wrapped (context : FailureContext) {f : Failure} {texts : List String} :
      Tells f texts → Tells (f.wrap context) (context.message :: texts)

/-- The story of a failure is the row of its links. -/
theorem Tells.eq_links {f : Failure} {texts : List String} (h : f.Tells texts) : texts = f.links := by
  induction h with
  | text message => rfl
  | error h => rw [← h.causes_eq]; rfl
  | wrapped context _ ih => rw [ih]; rfl

/-- Each failure has a story. -/
theorem exists_tells (f : Failure) : ∃ texts, f.Tells texts := by
  obtain ⟨contexts, root⟩ := f
  induction contexts with
  | nil =>
    cases root with
    | text message => exact ⟨_, .text message⟩
    | caused error =>
      obtain ⟨errors, herrors⟩ := error.exists_leads
      exact ⟨_, .error herrors⟩
  | cons context contexts ih =>
    obtain ⟨texts, htexts⟩ := ih
    exact ⟨_, .wrapped context htexts⟩

/-- Each failure has one story, the row of its links. -/
theorem tells_iff {f : Failure} {texts : List String} : f.Tells texts ↔ texts = f.links := by
  refine ⟨Tells.eq_links, ?_⟩
  rintro rfl
  obtain ⟨texts, htexts⟩ := f.exists_tells
  rwa [← htexts.eq_links]

/-- An error of the library is found in a failure exactly if it is the root or one of the contexts. -/
theorem weaveError?_isSome_iff (f : Failure) : f.weaveError?.isSome = true ↔
    (∃ error, f.root = .caused (.weave error)) ∨ ∃ error, .weave error ∈ f.contexts := by
  rw [weaveError?, Option.isSome_or, Bool.or_eq_true, or_comm, List.findSome?_isSome_iff]
  apply or_congr
  · rcases f.root with message | ⟨error⟩ | ⟨typeName, message, causes, bottom⟩ <;> simp [FailureRoot.weaveError?]
  · constructor
    · rintro ⟨⟨message⟩ | ⟨error⟩, hmem, hsome⟩
      · cases hsome
      · exact ⟨error, hmem⟩
    · rintro ⟨error, hmem⟩
      exact ⟨.weave error, hmem, rfl⟩

end Failure

/-! ## Reports -/

namespace ErrorInfo

/-- With a separator before the first text too, each text has one before it. -/
theorem append_intercalate (sep text : String) (texts : List String) :
    sep ++ sep.intercalate (text :: texts) = String.join ((text :: texts).map (sep ++ ·)) := by
  induction texts generalizing text with
  | nil => simp
  | cons next texts ih =>
    rw [String.intercalate_cons_cons, List.map_cons, String.join_cons, ← ih, String.append_assoc, String.append_assoc]

/-- Below the message stands a line that announces the causes, and then each cause on a new line. -/
theorem fullDescription_eq (info : ErrorInfo) : info.fullDescription =
    if info.sourceChain = [] then info.message
    else info.message ++ "\nCaused by:" ++ String.join (info.sourceChain.map ("\n  " ++ ·)) := by
  obtain ⟨message, errorType, causes⟩ := info
  cases causes with
  | nil => rfl
  | cons cause causes =>
    have hbegin : "\nCaused by:\n  " = "\nCaused by:" ++ "\n  " := by decide
    rw [if_neg (List.cons_ne_nil cause causes), ← append_intercalate]
    show message ++ "\nCaused by:\n  " ++ "\n  ".intercalate (cause :: causes) = _
    rw [hbegin, String.append_assoc, String.append_assoc, String.append_assoc]

/-- A report is of the type of the errors of the library exactly if one is found in the failure. -/
theorem errorType_ofFailure_eq_iff (f : Failure) :
    (ofFailure f).errorType = weaveErrorType ↔ f.weaveError?.isSome = true := by
  have hother : otherErrorType ≠ weaveErrorType := by decide
  rw [ofFailure]
  split
  next hsome => exact iff_of_true rfl hsome
  next hnone => exact iff_of_false hother hnone

/-- The report of an error is that of the failure which has it as its root, but for the type. -/
theorem ofError_eq (error : CausedError) : ofError error =
    { ofFailure (.ofError error) with errorType := typeOf error } := by
  obtain ⟨errors, herrors⟩ := error.exists_leads
  rw [ofError, herrors.walk_eq, ← herrors.causes_eq]
  rfl

/-- A failure has one story, and its report holds all of it: the outermost text as the message and the others in
order as the causes. The report is that of a refusal of the weaver exactly if the root or a context is one, whatever
lies below the root. Written out, it is the message, and if there are causes, a line that announces them and then
each of them once. An error is reported in the same words when the report is made from it and when it is made from
the failure that it becomes; and any texts whatever are the story of an error of any type. -/
theorem ofFailure_tells (f : Failure) :
    let info := ofFailure f
    (∀ texts, f.Tells texts ↔ texts = info.message :: info.sourceChain) ∧
    (info.errorType = weaveErrorType ↔
      (∃ error, f.root = .caused (.weave error)) ∨ ∃ error, .weave error ∈ f.contexts) ∧
    (info.fullDescription = if info.sourceChain = [] then info.message
      else info.message ++ "\nCaused by:" ++ String.join (info.sourceChain.map ("\n  " ++ ·))) ∧
    (∀ error : CausedError,
      let direct := ofError error
      let converted := ofFailure (.ofError error)
      direct.message = converted.message ∧ direct.sourceChain = converted.sourceChain ∧
        direct.fullDescription = converted.fullDescription) ∧
    ∀ typeName message texts, ∃ error, typeOf error = typeName ∧ (Failure.ofError error).Tells (message :: texts) := by
  intro info
  refine ⟨?_, ?_, fullDescription_eq info, ?_, ?_⟩
  · intro texts
    have hlinks : info.message :: info.sourceChain = f.links := f.message_cons_sources
    rw [hlinks, Failure.tells_iff]
  · rw [errorType_ofFailure_eq_iff, Failure.weaveError?_isSome_iff]
  · intro error direct converted
    have hdirect : direct = { converted with errorType := typeOf error } := ofError_eq error
    rw [hdirect]
    exact ⟨rfl, rfl, rfl⟩
  · intro typeName message texts
    refine ⟨.layered typeName message texts none, rfl, Failure.tells_iff.mpr ?_⟩
    show message :: texts = message :: (texts ++ [])
    rw [List.append_nil]

-- a refusal that is merely the cause of another error does not make the report one of a refusal
example : (ofFailure (.ofError (.layered "Io" "no order" ["no file"] (some (.config "shut"))))).errorType =
    otherErrorType := rfl

end ErrorInfo

end AspectWeaver
