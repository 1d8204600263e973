import Herald.Generator
import Herald.Json.Writer
import Herald.Main
import Herald.WebSocket.Address
import Herald.Proofs.RepeatedRun
import Herald.Proofs.Tokens
import Herald.Proofs.CommandWriting
import Herald.Proofs.Executor
import Herald.Proofs.Life
import Herald.Proofs.Sessions
import Herald.Proofs.SelfKnowledge
import Herald.Proofs.Acquaintance
import Herald.Proofs.EventFormat
import Herald.Proofs.RunningLife
import Herald.Proofs.Registration
import Herald.Proofs.Replies
import Herald.Proofs.OwnVoice
import Herald.Proofs.CommandReading
import Herald.Proofs.RunParts
import Herald.Proofs.Mentions
import Herald.Proofs.Decoration
import Herald.Proofs.Targets
import Herald.Proofs.MentionReach
import Herald.Proofs.FormQuery
import Herald.Proofs.AnswerShapes
import Herald.Proofs.Answers
import Herald.Proofs.MemberPages
import Herald.Proofs.Notices
import Herald.Proofs.Posting
import Herald.Proofs.Normalization
import Herald.Proofs.JsonWriting
import Herald.Proofs.OutgoingMessages
import Herald.Proofs.BrokenText
import Herald.Proofs.Generation
import Herald.Proofs.Loading
import Herald.Proofs.CountReading
import Herald.Proofs.CreationDate
