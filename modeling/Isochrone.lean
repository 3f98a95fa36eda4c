import Isochrone.Cutoffs
import Isochrone.Domain.CombiningClass
import Isochrone.Domain.Composites
import Isochrone.Domain.Composition
import Isochrone.Domain.Direction
import Isochrone.Domain.Excluded
import Isochrone.Domain.Folding
import Isochrone.Domain.Forms
import Isochrone.Domain.Joining
import Isochrone.Domain.Marks
import Isochrone.Domain.Name
import Isochrone.Domain.Punycode
import Isochrone.Domain.Shifts
import Isochrone.Error
import Isochrone.Feature
import Isochrone.FeatureIndex
import Isochrone.Form
import Isochrone.Geometry
import Isochrone.Http.Address
import Isochrone.Http.Client
import Isochrone.Http.Exchange
import Isochrone.Http.Host
import Isochrone.Http.Ipv4
import Isochrone.Http.Ipv6
import Isochrone.Http.Path
import Isochrone.Http.Service
import Isochrone.Json.Document
import Isochrone.Json.Number
import Isochrone.Json.Token
import Isochrone.Json.Value
import Isochrone.LoadOptions
import Isochrone.Log
import Isochrone.Number.Binary64
import Isochrone.Number.Layout
import Isochrone.Number.Reading
import Isochrone.Number.Shortest
import Isochrone.Parameters
import Isochrone.Proofs.Cutoffs
import Isochrone.Proofs.Feature
import Isochrone.Proofs.Feature.Objects
import Isochrone.Proofs.Feature.ReadingBack
import Isochrone.Proofs.Feature.Seconds
import Isochrone.Proofs.FeatureIndex
import Isochrone.Proofs.FeatureIndex.Contents
import Isochrone.Proofs.FeatureIndex.Failure
import Isochrone.Proofs.FeatureIndex.ReadingBack
import Isochrone.Proofs.FeatureIndex.Warnings
import Isochrone.Proofs.Form
import Isochrone.Proofs.Geometry
import Isochrone.Proofs.Http.Classification
import Isochrone.Proofs.Http.Fetching
import Isochrone.Proofs.Http.Statuses
import Isochrone.Proofs.Json.Canonical
import Isochrone.Proofs.Json.Distinct
import Isochrone.Proofs.Json.Literals
import Isochrone.Proofs.Json.Written
import Isochrone.Proofs.Number.Exact
import Isochrone.Proofs.Number.Rounding
import Isochrone.Proofs.Number.Shortest
import Isochrone.Proofs.Parameters
import Isochrone.Proofs.Parameters.Integers
import Isochrone.Proofs.Parameters.Serialised
import Isochrone.Proofs.Parameters.Writes
import Isochrone.Proofs.Reading
import Isochrone.Proofs.Reading.Agreement
import Isochrone.Proofs.Reading.Fields
import Isochrone.Proofs.Reading.Order
import Isochrone.Proofs.Reading.TextAndValue
import Isochrone.Proofs.Request.Abandonment
import Isochrone.Proofs.Request.Announced
import Isochrone.Proofs.Request.Delivery
import Isochrone.Proofs.Request.Driving
import Isochrone.Proofs.Request.Effect
import Isochrone.Proofs.Request.History
import Isochrone.Proofs.Request.LifeCycle
import Isochrone.Proofs.Request.NullProperties
import Isochrone.Proofs.Request.Opening
import Isochrone.Proofs.Request.Polling
import Isochrone.Proofs.Request.Refusal
import Isochrone.Proofs.Request.Report
import Isochrone.Proofs.Request.Representation
import Isochrone.Proofs.Request.Unissued
import Isochrone.Proofs.RequestUrl.CutoffPairs
import Isochrone.Proofs.RequestUrl.ReadingBack
import Isochrone.Proofs.RequestUrl.Resolving
import Isochrone.Proofs.RequestUrl.RouterSegment
import Isochrone.Proofs.SortedMap
import Isochrone.Proofs.Stub
import Isochrone.Proofs.Text.Blank
import Isochrone.Proofs.Text.ByteOrder
import Isochrone.Proofs.Text.Percent
import Isochrone.Proofs.Text.Pieces
import Isochrone.Reading.Decoder
import Isochrone.Reading.Problem
import Isochrone.Request.Basic
import Isochrone.Request.Load
import Isochrone.Request.Run
import Isochrone.RequestUrl
import Isochrone.SortedMap
import Isochrone.Stub
import Isochrone.Text.Blank
import Isochrone.Text.Hex
import Isochrone.Text.Inspect
import Isochrone.Text.Percent
import Isochrone.Text.Pieces
import Isochrone.Text.Quoted
import Isochrone.Text.Runs
import Isochrone.Text.Shapeless
import Isochrone.Transport
