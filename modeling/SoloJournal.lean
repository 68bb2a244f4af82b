import SoloJournal.Authoring.CatalogCheck
import SoloJournal.Authoring.GameDir
import SoloJournal.Authoring.Mismatch
import SoloJournal.Authoring.Reading
import SoloJournal.Authoring.Records
import SoloJournal.Authoring.RulebookCheck
import SoloJournal.Authoring.Summary
import SoloJournal.Card.Basic
import SoloJournal.Card.Catalog
import SoloJournal.Chance.KeyStream
import SoloJournal.Chance.Scripted
import SoloJournal.Chance.Seeded
import SoloJournal.Chance.Shuffle
import SoloJournal.Chance.Source
import SoloJournal.Files.Tree
import SoloJournal.Json.Basic
import SoloJournal.Json.Reader
import SoloJournal.Json.Render
import SoloJournal.Main
import SoloJournal.Number.Binary64
import SoloJournal.Number.Decimal
import SoloJournal.Number.Digit
import SoloJournal.Number.Shortest
import SoloJournal.Play.Deck
import SoloJournal.Play.Event
import SoloJournal.Play.Game
import SoloJournal.Play.History
import SoloJournal.Play.Ledger
import SoloJournal.Play.Move
import SoloJournal.Play.Status
import SoloJournal.Play.Tower
import SoloJournal.Play.TurnDie
import SoloJournal.Play.View
import SoloJournal.Proofs.Accounted
import SoloJournal.Proofs.Accounts
import SoloJournal.Proofs.Applying
import SoloJournal.Proofs.Authored
import SoloJournal.Proofs.Books
import SoloJournal.Proofs.CardFields
import SoloJournal.Proofs.Completeness
import SoloJournal.Proofs.Conservation
import SoloJournal.Proofs.Counters
import SoloJournal.Proofs.Deal
import SoloJournal.Proofs.Debounce
import SoloJournal.Proofs.Deeds
import SoloJournal.Proofs.FileSlots
import SoloJournal.Proofs.FileTrees
import SoloJournal.Proofs.Fingerprints
import SoloJournal.Proofs.FirstRepeat
import SoloJournal.Proofs.Flaws
import SoloJournal.Proofs.Grammar
import SoloJournal.Proofs.Json.Leaves
import SoloJournal.Proofs.Json.RoundTrip
import SoloJournal.Proofs.LastSave
import SoloJournal.Proofs.Leaving
import SoloJournal.Proofs.Loaded
import SoloJournal.Proofs.Loading
import SoloJournal.Proofs.Log
import SoloJournal.Proofs.Moves
import SoloJournal.Proofs.NewDeal
import SoloJournal.Proofs.Noninterference
import SoloJournal.Proofs.Notes
import SoloJournal.Proofs.Opening
import SoloJournal.Proofs.Options
import SoloJournal.Proofs.Pace
import SoloJournal.Proofs.Pacing
import SoloJournal.Proofs.Painting
import SoloJournal.Proofs.Performing
import SoloJournal.Proofs.Progress
import SoloJournal.Proofs.Pulls
import SoloJournal.Proofs.Refusals
import SoloJournal.Proofs.Reload
import SoloJournal.Proofs.Remembered
import SoloJournal.Proofs.Renewal
import SoloJournal.Proofs.Reporting
import SoloJournal.Proofs.Respelling
import SoloJournal.Proofs.Resuming
import SoloJournal.Proofs.Runs
import SoloJournal.Proofs.SavedText
import SoloJournal.Proofs.Script
import SoloJournal.Proofs.Shuffling
import SoloJournal.Proofs.Signing
import SoloJournal.Proofs.Slots
import SoloJournal.Proofs.Spelling
import SoloJournal.Proofs.Standing
import SoloJournal.Proofs.Steps
import SoloJournal.Proofs.Telling
import SoloJournal.Proofs.TowerLaws
import SoloJournal.Proofs.Turns
import SoloJournal.Proofs.Validation
import SoloJournal.Proofs.Wire.Laws
import SoloJournal.Proofs.Wire.Play
import SoloJournal.Proofs.Wire.Rules
import SoloJournal.Proofs.Wire.Texts
import SoloJournal.Proofs.Words
import SoloJournal.Proofs.WriteThrough
import SoloJournal.Rules.Content
import SoloJournal.Rules.Rulebook
import SoloJournal.Rules.Signature
import SoloJournal.Save.Autosave
import SoloJournal.Save.FileSlot
import SoloJournal.Save.SavedGame
import SoloJournal.Save.Session
import SoloJournal.Save.Slot
import SoloJournal.Terminal.Arguments
import SoloJournal.Terminal.Command
import SoloJournal.Terminal.Lines
import SoloJournal.Terminal.Program
import SoloJournal.Terminal.Style
import SoloJournal.Terminal.Table
import SoloJournal.Text.Blank
import SoloJournal.Text.Hidden
import SoloJournal.Text.Line
import SoloJournal.Text.Quote
import SoloJournal.Wire.Basic
import SoloJournal.Wire.Cards
import SoloJournal.Wire.Play
import SoloJournal.Wire.Rules
import SoloJournal.Wire.View
import SoloJournal.Yaml.Cursor
import SoloJournal.Yaml.Document
import SoloJournal.Yaml.Node
import SoloJournal.Yaml.Node.Builder
import SoloJournal.Yaml.Scalar.Block
import SoloJournal.Yaml.Scalar.Fold
import SoloJournal.Yaml.Scalar.Meaning
import SoloJournal.Yaml.Scalar.Plain
import SoloJournal.Yaml.Scalar.Quoted
import SoloJournal.Yaml.Token
import SoloJournal.Yaml.Token.Scanner
import SoloJournal.Yaml.Token.Tag
import SoloJournal.Yaml.Value
