import ClientAuth.Api.UrlFault
import ClientAuth.Calendar.Moment
import ClientAuth.Json.Reader

/-! Faults: they break an operation off without a report of its own. -/
namespace ClientAuth

/-- Why an operation breaks off. -/
inductive Fault
  | notHex
  | emptyHex
  | zeroModulus
  | noInverse
  | noEntropy
  | noTime
  | badMoment (cause : MomentFault)
  | outsideCalendar
  | unreadableStamp
  | beyondDouble
  | notAscii
  | notUnicode (text : String)
  | readOnly
  | notCountable
  | notComparable
  | badArguments
  | wrongKind
  | notText
  | noMembers (kind : String)
  | noElements (kind : String)
  | noKeys (ofText : Bool)
  | tooDeep (inObject : Bool)
  | invalidUrl (cause : UrlFault)
  | unknownUrlKind (url : String)
  | badAuthority
  | noHost
  | noRegion
  | invalidRegion
  | invalidEndpoint
  | invalidTimeout
  | partialCredentials
  | badVariable
  | namelessVariable
  | unknownMechanism (name : String)
  | unknownStrategy
  | foreign (cause text : String)
deriving DecidableEq, Repr

namespace Fault

/-- The name under which a fault is known. -/
def name : Fault → String
  | notHex | zeroModulus | noInverse | noTime | badMoment .notOnClock | unreadableStamp
  | unknownUrlKind _ | badAuthority | invalidEndpoint | invalidTimeout | unknownMechanism _
  | unknownStrategy | badVariable => "ValueError"
  | namelessVariable => "OSError"
  | emptyHex => "IndexError"
  | noEntropy => "EntropyUnavailableError"
  | badMoment .tooLarge | outsideCalendar | beyondDouble => "OverflowError"
  | notAscii | notUnicode _ => "UnicodeEncodeError"
  | readOnly | notCountable | notComparable | badArguments | wrongKind | noElements _
  | noKeys _ => "TypeError"
  | tooDeep _ => "RecursionError"
  | invalidUrl cause => cause.family
  | noHost | notText | noMembers _ => "AttributeError"
  | noRegion => "NoRegionError"
  | invalidRegion => "InvalidRegionError"
  | partialCredentials => "PartialCredentialsError"
  | foreign cause _ => cause

/-- The text of a fault that has one of its own. -/
def message? : Fault → Option String
  | noEntropy => some "No cryptographically secure random source available"
  | noMembers kind => some ("'" ++ kind ++ "' object has no attribute 'get'")
  | noElements kind => some ("argument of type '" ++ kind ++ "' is not iterable")
  | noKeys true => some "string indices must be integers, not 'str'"
  | noKeys false => some "list indices must be integers or slices, not str"
  | notUnicode text =>
      some (Text.lackMessage "utf-8" "surrogates not allowed" Text.isHalf (Text.codes text.toList))
  | tooDeep inObject => some (Json.ReadFault.tooDeep inObject).message
  | invalidUrl cause => some cause.message
  | unknownUrlKind url => some ("unknown url type: " ++ Text.quoted url)
  | unknownMechanism name => some ("No such authorization type: " ++ name)
  | foreign _ text => some text
  | _ => none

end Fault
end ClientAuth
