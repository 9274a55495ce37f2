import TutorApp.Platform

set_option autoImplicit false

namespace TutorApp

/-- How a link for one provider comes about. -/
inductive LinkKind where
  | personalRoom (hosts : List String)
  | generated
  deriving Repr, DecidableEq

def meetingProviders : MeetingProvider → LinkKind
  | .zoom => .personalRoom ["zoom.us"]
  | .googleMeet => .personalRoom ["meet.google.com"]
  | .jitsi => .generated

/-- `build` of the one provider that generates its rooms. -/
def jitsiRoom (random : String) : String := "https://meet.jit.si/foxacademy-" ++ random

structure MeetingSettings where
  provider : MeetingProvider
  roomUrl : Option String
  deriving Repr, DecidableEq

def maxRoomUrl : Nat := 500

section

variable (platform : Platform)

/-- Exact host, or any subdomain of it. -/
def isHostOf (hostname : String) (hosts : List String) : Bool :=
  let host := platform.toLowerCase hostname
  hosts.any fun allowed => host == allowed || host.endsWith ("." ++ allowed)

/-- Why this room link cannot be used, or `none` if it can. -/
def meetingRoomProblem (provider : MeetingProvider) (roomUrl : Option String) : Option String :=
  match meetingProviders provider, roomUrl with
  | .generated, none => none
  | .generated, some _ =>
      some "This provider creates a room for each lesson, so it takes no room address"
  | .personalRoom _, none => none
  | .personalRoom hosts, some address =>
      if Js.trim address = "" then none
      else if maxRoomUrl < Js.utf16Length address then
        some "That address is too long to be a meeting room"
      else match platform.parseUrl address with
        | none => some "That is not a web address"
        | some parsed =>
            if parsed.protocol ≠ "https:" then
              some "A meeting room address has to start with https://"
            else if parsed.username ≠ "" ∨ parsed.password ≠ "" then
              some "A meeting room address cannot carry a username or password"
            else if !isHostOf platform parsed.hostname hosts then
              some ("That address is not on " ++ " or ".intercalate hosts)
            else none

/-- The link to put on a lesson being booked, from the settings alone. -/
def meetingLinkFor (settings : Option MeetingSettings) (random : String) :
    Option (MeetingProvider × String) :=
  match settings with
  | none => none
  | some chosen =>
      match meetingProviders chosen.provider with
      | .generated => some (chosen.provider, jitsiRoom random)
      | .personalRoom _ =>
          match chosen.roomUrl with
          | none => none
          | some address =>
              if meetingRoomProblem platform chosen.provider (some address) = none then
                some (chosen.provider, address)
              else none

end

end TutorApp
