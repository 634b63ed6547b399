import GuildAccess.Text.Blank

/-!
The capabilities a role or an override can grant. A flag's position is its bit in every stored set
and is never renumbered.
-/
namespace GuildAccess

/-- One capability. -/
inductive Flag
  | viewChannel
  | sendMessages
  | manageMessages
  | manageChannels
  | manageRoles
  | manageGuild
  | kickMembers
  | banMembers
  | administrator
  | attachFiles
  | addReactions
  | viewAuditLog
  | moderateMembers
  | connect
  | speak
  | deleteMessages
  | mentionEveryone
  | manageNicknames
  | createInvite
  | pinMessages
  | embedLinks
deriving DecidableEq

namespace Flag

def all : List Flag := [
  .viewChannel, .sendMessages, .manageMessages, .manageChannels, .manageRoles, .manageGuild,
  .kickMembers, .banMembers, .administrator, .attachFiles, .addReactions, .viewAuditLog,
  .moderateMembers, .connect, .speak, .deleteMessages, .mentionEveryone, .manageNicknames,
  .createInvite, .pinMessages, .embedLinks]

def position : Flag → Nat
  | .viewChannel => 0
  | .sendMessages => 1
  | .manageMessages => 2
  | .manageChannels => 3
  | .manageRoles => 4
  | .manageGuild => 5
  | .kickMembers => 6
  | .banMembers => 7
  | .administrator => 8
  | .attachFiles => 9
  | .addReactions => 10
  | .viewAuditLog => 11
  | .moderateMembers => 12
  | .connect => 13
  | .speak => 14
  | .deleteMessages => 15
  | .mentionEveryone => 16
  | .manageNicknames => 17
  | .createInvite => 18
  | .pinMessages => 19
  | .embedLinks => 20

def name : Flag → String
  | .viewChannel => "VIEW_CHANNEL"
  | .sendMessages => "SEND_MESSAGES"
  | .manageMessages => "MANAGE_MESSAGES"
  | .manageChannels => "MANAGE_CHANNELS"
  | .manageRoles => "MANAGE_ROLES"
  | .manageGuild => "MANAGE_GUILD"
  | .kickMembers => "KICK_MEMBERS"
  | .banMembers => "BAN_MEMBERS"
  | .administrator => "ADMINISTRATOR"
  | .attachFiles => "ATTACH_FILES"
  | .addReactions => "ADD_REACTIONS"
  | .viewAuditLog => "VIEW_AUDIT_LOG"
  | .moderateMembers => "MODERATE_MEMBERS"
  | .connect => "CONNECT"
  | .speak => "SPEAK"
  | .deleteMessages => "DELETE_MESSAGES"
  | .mentionEveryone => "MENTION_EVERYONE"
  | .manageNicknames => "MANAGE_NICKNAMES"
  | .createInvite => "CREATE_INVITE"
  | .pinMessages => "PIN_MESSAGES"
  | .embedLinks => "EMBED_LINKS"

def ofPosition? (n : Nat) : Option Flag := all[n]?

def ofName? (s : String) : Option Flag := all.find? fun f => f.name = s

/-- The flag of this name in any ASCII case, blanks at the ends aside. -/
def ofText? (s : String) : Option Flag :=
  let wanted := (Text.trim s.toList).map Char.toUpper
  all.find? fun f => f.name.toList = wanted

theorem position_lt (f : Flag) : f.position < 21 := by cases f <;> decide

theorem ofPosition?_position (f : Flag) : ofPosition? f.position = some f := by cases f <;> rfl

theorem mem_all (f : Flag) : f ∈ all := by cases f <;> decide

end Flag
end GuildAccess
