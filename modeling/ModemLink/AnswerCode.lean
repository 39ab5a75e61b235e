/-
Module: ModemLink.AnswerCode
Purpose: The result code in the header of a modem's answer.
Main exports: AnswerCode, isSuccess, isNotSupported, text
-/

namespace ModemLink

/-- The signed number a modem answers with.  Zero says that the request succeeded; all other
numbers are errors, and only some of them have a name. -/
structure AnswerCode where
  value : Int32
deriving DecidableEq, Repr, Inhabited

namespace AnswerCode

def success : AnswerCode := ⟨0⟩
def radioNotAvailable : AnswerCode := ⟨1⟩
def genericFailure : AnswerCode := ⟨2⟩
def requestNotSupported : AnswerCode := ⟨6⟩
def cancelled : AnswerCode := ⟨7⟩
def noMemory : AnswerCode := ⟨37⟩
def internalError : AnswerCode := ⟨38⟩
def systemError : AnswerCode := ⟨39⟩
def modemError : AnswerCode := ⟨40⟩
def invalidState : AnswerCode := ⟨41⟩
def noResources : AnswerCode := ⟨42⟩
def invalidArguments : AnswerCode := ⟨44⟩

/-- The codes that have a name, with the words for them. -/
def named : List (AnswerCode × String) :=
  [(success, "none"),
    (radioNotAvailable, "radio not available"),
    (genericFailure, "generic failure"),
    (requestNotSupported, "request not supported"),
    (cancelled, "cancelled"),
    (noMemory, "no memory"),
    (internalError, "internal error"),
    (systemError, "system error"),
    (modemError, "modem error"),
    (invalidState, "invalid state"),
    (noResources, "no resources"),
    (invalidArguments, "invalid arguments")]

/-- The names of these codes in the modem's interface. -/
def symbols : List (AnswerCode × String) :=
  [(success, "None"),
    (radioNotAvailable, "RadioNotAvailable"),
    (genericFailure, "GenericFailure"),
    (requestNotSupported, "RequestNotSupported"),
    (cancelled, "Cancelled"),
    (noMemory, "NoMemory"),
    (internalError, "InternalErr"),
    (systemError, "SystemErr"),
    (modemError, "ModemErr"),
    (invalidState, "InvalidState"),
    (noResources, "NoResources"),
    (invalidArguments, "InvalidArguments")]

/-- Whether the request succeeded. -/
def isSuccess (code : AnswerCode) : Bool :=
  code = success

/-- Whether the modem does not know the request at the version it was sent at. -/
def isNotSupported (code : AnswerCode) : Bool :=
  code = requestNotSupported

/-- The code in words. -/
def text (code : AnswerCode) : String :=
  (named.lookup code).getD s!"unknown error ({code.value.toInt})"

instance : ToString AnswerCode := ⟨text⟩

/-- The name of the code in the modem's interface. -/
def symbol (code : AnswerCode) : String :=
  (symbols.lookup code).getD s!"Unknown({code.value.toInt})"

theorem isSuccess_iff {code : AnswerCode} : code.isSuccess = true ↔ code = success := by
  simp [isSuccess]

theorem isNotSupported_iff {code : AnswerCode} :
    code.isNotSupported = true ↔ code = requestNotSupported := by
  simp [isNotSupported]

end AnswerCode

end ModemLink
