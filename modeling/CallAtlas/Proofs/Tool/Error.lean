import CallAtlas.Failure
import CallAtlas.World.Disk

set_option autoImplicit false
set_option relaxedAutoImplicit false

namespace CallAtlas

namespace Text

theorem colon_notMem_signedDecimal (n : Int) : ':' ∉ signedDecimal n := by
  unfold signedDecimal
  split
  · exact List.not_mem_cons_of_ne_of_not_mem (by decide) (notMem_decimal (by decide) _)
  · exact notMem_decimal (by decide) _

theorem signedDecimal_injective {n m : Int} (same : signedDecimal n = signedDecimal m) :
    n = m := by
  have unsigned (k : Nat) (rest : List Char) : decimal k ≠ '-' :: rest := by
    intro signed
    exact notMem_decimal (c := '-') (by decide) k (signed ▸ List.mem_cons_self)
  unfold signedDecimal at same
  split at same
  · split at same
    · have magnitude := decimal_injective (List.cons.inj same).2
      omega
    · exact absurd same.symm (unsigned _ _)
  · split at same
    · exact absurd same (unsigned _ _)
    · have magnitude := decimal_injective same
      omega

end Text

namespace Tool

def Fault.text : Fault → List Char
  | .failed status diagnostic =>
    " service exited with ".toList ++
      ((Error.statusText status).toList ++ ':' :: ' ' :: Text.trim diagnostic.toList)
  | .unavailable cause => " service is unavailable: ".toList ++ cause.message.toList
  | .timedOut limit => " service timed out after ".toList ++ limit.text.toList
  | .workspace cause => " service workspace error: ".toList ++ cause.message.toList

theorem Error.message_toList (error : Error) :
    error.message.toList = error.service.name.toList ++ error.fault.text := by
  unfold message Fault.text
  rw [String.toList_append]
  cases error.fault with
  | failed status diagnostic =>
    dsimp only
    rw [String.toList_append, String.toList_append, String.toList_append,
      @String.toList_ofList (Text.trim diagnostic.toList), List.append_assoc, List.append_assoc]
    rfl
  | unavailable cause => exact congrArg _ (String.toList_append ..)
  | timedOut limit => exact congrArg _ (String.toList_append ..)
  | workspace cause => exact congrArg _ (String.toList_append ..)

theorem Service.head?_name_injective :
    Function.Injective fun service : Service => service.name.toList.head? := by
  intro service other same
  cases service <;> cases other <;> first | rfl | (exact absurd same (by decide))

theorem Error.head?_message (error : Error) :
    error.message.toList.head? = error.service.name.toList.head? := by
  have named : error.service.name.toList ≠ [] := by cases error.service <;> decide
  rw [message_toList, List.head?_append, List.head?_eq_some_head named, Option.some_or]

theorem Error.service_of_message {error other : Error} (same : error.message = other.message) :
    error.service = other.service := by
  apply Service.head?_name_injective
  dsimp only
  rw [← head?_message, ← head?_message, same]

theorem Error.text_of_message {error other : Error} (same : error.message = other.message) :
    error.fault.text = other.fault.text := by
  have whole := congrArg String.toList same
  rw [message_toList, message_toList, service_of_message same] at whole
  exact List.append_cancel_left whole

def Fault.mark : Fault → Char
  | .failed _ _ => 'e'
  | .unavailable _ => 'i'
  | .timedOut _ => 't'
  | .workspace _ => 'w'

theorem Fault.getElem?_text (fault : Fault) : fault.text[9]? = some fault.mark := by
  unfold text
  cases fault <;> exact List.getElem?_append_left (by decide)

theorem Fault.failed_of_mark {fault : Fault} (marked : fault.mark = 'e') :
    ∃ status diagnostic, fault = .failed status diagnostic := by
  cases fault with
  | failed status diagnostic => exact ⟨status, diagnostic, rfl⟩
  | unavailable cause => exact absurd marked (show 'i' ≠ 'e' by decide)
  | timedOut limit => exact absurd marked (show 't' ≠ 'e' by decide)
  | workspace cause => exact absurd marked (show 'w' ≠ 'e' by decide)

theorem Error.status_of_text {status other : Option Int} {rest rest' : List Char}
    (same : (statusText status).toList ++ ':' :: rest = (statusText other).toList ++ ':' :: rest') :
    status = other := by
  have known (n : Int) (rest : List Char) : (statusText (some n)).toList ++ ':' :: rest =
      "status ".toList ++ (Text.signedDecimal n ++ ':' :: rest) := by
    unfold statusText
    rw [String.toList_append, @String.toList_ofList (Text.signedDecimal n), List.append_assoc]
  have unknown (n : Int) (rest rest' : List Char) : (statusText none).toList ++ ':' :: rest ≠
      (statusText (some n)).toList ++ ':' :: rest' := by
    intro same
    rw [known] at same
    have heads : some 'n' = some 's' := congrArg List.head? same
    exact absurd heads (by decide)
  cases status with
  | none =>
    cases other with
    | none => rfl
    | some m => exact absurd same (unknown m _ _)
  | some n =>
    cases other with
    | none => exact absurd same.symm (unknown n _ _)
    | some m =>
      rw [known, known] at same
      have cut := Text.cutAt?_eq_some.mpr
        ⟨List.append_cancel_left same, Text.colon_notMem_signedDecimal m⟩
      have cut' := Text.cutAt?_eq_some.mpr
        ⟨(rfl : Text.signedDecimal n ++ ':' :: rest = _), Text.colon_notMem_signedDecimal n⟩
      have equal := Option.some.inj (cut'.symm.trans cut)
      rw [Text.signedDecimal_injective (congrArg Prod.fst equal)]

/-- A message tells the exit status. -/
theorem Error.exitStatus?_of_message {error other : Error} (same : error.message = other.message)
    {status : Int} (exited : error.exitStatus? = some status) :
    other.exitStatus? = some status := by
  obtain ⟨service, fault⟩ := error
  obtain ⟨service', fault'⟩ := other
  have texts : fault.text = fault'.text := text_of_message same
  cases fault with
  | failed known diagnostic =>
    have marks := congrArg (fun text : List Char => text[9]?) texts
    rw [Fault.getElem?_text, Fault.getElem?_text] at marks
    obtain ⟨known', diagnostic', rfl⟩ := Fault.failed_of_mark (Option.some.inj marks).symm
    exact (status_of_text (List.append_cancel_left texts)).symm.trans exited
  | unavailable cause => cases exited
  | timedOut limit => cases exited
  | workspace cause => cases exited

end Tool

namespace SystemError

def toolInitials : List Char := ['s', 't', 'd', 'c']

/-- An error whose message begins like that of no tool. -/
def IsForeign (error : SystemError) : Prop :=
  ∃ c ∉ toolInitials, error.message.toList.head? = some c

theorem IsForeign.ne_message {error : SystemError} (foreign : error.IsForeign)
    (other : Tool.Error) : error.message ≠ other.message := by
  intro same
  obtain ⟨c, apart, head⟩ := foreign
  rw [same, Tool.Error.head?_message] at head
  cases service : other.service <;> rw [service] at head <;> cases head <;>
    exact apart (by decide)

-- The texts are compared as lists of characters: evaluating their characters would decode them.
theorem exists_systemTexts : ∀ entry ∈ systemTexts,
    ∃ c ∉ toolInitials, ∃ rest, entry.2 = String.ofList (c :: rest) := by
  unfold systemTexts
  repeat' refine List.forall_mem_cons.mpr ⟨⟨_, ?_, _, rfl⟩, ?_⟩
  all_goals first | decide | exact List.forall_mem_nil _

theorem isForeign_numbered (number : Nat) : (numbered number).IsForeign := by
  have begun : ∃ c ∉ toolInitials, (textOf number).toList.head? = some c := by
    unfold textOf
    cases found : systemTexts.lookup number with
    | none =>
      refine ⟨'U', by decide, ?_⟩
      rw [Option.getD_none, String.toList_append]
      rfl
    | some text =>
      obtain ⟨before, after, split, -⟩ := List.lookup_eq_some_iff.mp found
      have listed : (number, text) ∈ systemTexts := split ▸ by simp
      obtain ⟨c, other, rest, spelled⟩ := exists_systemTexts _ listed
      refine ⟨c, other, ?_⟩
      change text = String.ofList (c :: rest) at spelled
      rw [Option.getD_some, spelled, String.toList_ofList]
      rfl
  obtain ⟨c, apart, head⟩ := begun
  refine ⟨c, apart, ?_⟩
  unfold message
  rw [String.toList_append, String.toList_append, String.toList_append, List.append_assoc,
    List.append_assoc, List.head?_append, head]
  rfl

end SystemError

namespace Disk

variable {disk : Disk} {flag : Bool} {error : SystemError}

theorem isForeign_of_walkWith {follow : Location → List Step → Except SystemError Arrival}
    (foreign : ∀ here way error, follow here way = .error error → error.IsForeign)
    {here : Location} {way : List Step}
    (failed : disk.walkWith flag follow here way = .error error) : error.IsForeign := by
  induction way generalizing here with
  | nil => cases failed
  | cons step rest ih =>
    unfold walkWith at failed
    split at failed
    · cases failed
      exact SystemError.isForeign_numbered 2
    · split at failed
      · exact ih failed
      · exact ih failed
      · dsimp only at failed
        split at failed
        · cases failed
          exact SystemError.isForeign_numbered 36
        · split at failed
          · split at failed
            · cases failed
            · cases failed
              exact SystemError.isForeign_numbered 2
          · split at failed
            · cases failed
            · exact foreign _ _ _ failed
          · exact ih failed
    · cases failed
      exact SystemError.isForeign_numbered 20

theorem isForeign_of_walk {links : Nat} {here : Location} {way : List Step}
    (failed : disk.walk flag links here way = .error error) : error.IsForeign := by
  induction links generalizing here way error with
  | zero =>
    refine isForeign_of_walkWith (fun _ _ _ looped => ?_) failed
    cases looped
    exact SystemError.isForeign_numbered 40
  | succ links ih => exact isForeign_of_walkWith (fun _ _ _ => ih) failed

theorem isForeign_of_arrive {workdir : Location} {path : Path}
    (failed : disk.arrive flag workdir path = .error error) : error.IsForeign := by
  unfold arrive at failed
  split at failed
  · cases failed
    exact ⟨'f', by decide, rfl⟩
  · split at failed
    · cases failed
      exact SystemError.isForeign_numbered 2
    · split at failed
      · cases failed
        exact SystemError.isForeign_numbered 84
      · split at failed
        · cases failed
          exact SystemError.isForeign_numbered 36
        · exact isForeign_of_walk failed

theorem isForeign_of_lookup {workdir : Location} {path : Path}
    (failed : disk.lookup workdir path = .error error) : error.IsForeign := by
  unfold lookup at failed
  split at failed
  · rename_i arrival
    cases failed
    exact isForeign_of_arrive arrival
  · cases failed
    exact SystemError.isForeign_numbered 2
  · cases failed

theorem isForeign_of_target {workdir : Location} {path : Path}
    (failed : disk.target workdir path = .error error) : error.IsForeign := by
  unfold target at failed
  split at failed
  · cases failed
  · cases failed
    exact SystemError.isForeign_numbered 21
  · cases failed
  · rename_i unreached
    split at failed
    · split at failed
      · cases failed
        exact SystemError.isForeign_numbered 21
      · rename_i before
        cases failed
        exact isForeign_of_arrive before
    · cases failed
      exact isForeign_of_arrive unreached

theorem isForeign_of_write {workdir : Location} {path : Path} {text : String}
    (failed : disk.write workdir path text = .error error) : error.IsForeign := by
  unfold write at failed
  split at failed
  · rename_i untargeted
    cases failed
    exact isForeign_of_target untargeted
  · cases failed

end Disk

end CallAtlas
